import TxRelay.Url.Idna.Domain
import TxRelay.Url.Percent

/-!
# Hosts

A host is a name, an address of four bytes or one of eight words. In the
schemes of the web a host that ends in a number is an address of four bytes,
however it is written: with fewer parts, or in octal or hexadecimal. Names are
put into lower case and into ASCII. In other schemes any text is a name.

## Main definitions

* `Url.Host`: A host.
* `Url.Host.parseWeb?`, `Url.Host.parseOpaque?`: Read a host.
* `Url.Host.render`: Writes a host.
-/

namespace TxRelay

namespace Url

/-- A host. -/
inductive Host where
  /-- A name, as it is written. -/
  | name (text : List Char)
  /-- An address of four bytes. -/
  | four (address : Nat)
  /-- An address of eight words of sixteen bits. -/
  | eight (words : List Nat)
  deriving DecidableEq

/-- The value of a digit of either case in bases up to sixteen. -/
def digitValue? (base : Nat) (c : Char) : Option Nat :=
  if c.toNat < 128 then
    ((Hex.digit? c.toNat.toUInt8).map UInt8.toNat).filter (· < base)
  else none

/-- The number written by digits in a base. No digits are zero. -/
def numberIn? (base : Nat) (digits : List Char) : Option Nat :=
  digits.foldlM (fun acc c => (digitValue? base c).map (acc * base + ·)) 0

/-- A part of an address of four bytes. -/
def part? : List Char → Option Nat
  | [] => none
  | '0' :: 'x' :: rest | '0' :: 'X' :: rest => numberIn? 16 rest
  | '0' :: c :: rest => numberIn? 8 (c :: rest)
  | digits => numberIn? 10 digits

/-- The parts of a name, without the empty one behind a final point. -/
def parts (name : List Char) : List (List Char) :=
  let all := splitAt (· == '.') name
  match all.reverse with
  | [] :: before :: more => (before :: more).reverse
  | _ => all

/-- Whether a name ends in a number, so that it has to be an address. -/
def endsInNumber (name : List Char) : Bool :=
  match (parts name).getLast? with
  | some (c :: rest) => (c :: rest).all Char.isDigit || (part? (c :: rest)).isSome
  | _ => false

/-- Reads an address of four bytes. The last part fills all bytes that are
    left. -/
def four? (name : List Char) : Option Nat := do
  let numbers ← (parts name).mapM part?
  let last ← numbers.getLast?
  let front := numbers.dropLast
  if 3 < front.length then none
  else if front.any (255 < ·) then none
  else if Nat.pow 256 (4 - front.length) ≤ last then none
  else
    let high := front.foldl (fun acc b => acc * 256 + b) 0
    pure (high * Nat.pow 256 (4 - front.length) + last)

/-- A word in up to four hexadecimal digits. -/
def word? (digits : List Char) : Option Nat :=
  if digits.isEmpty || 4 < digits.length then none else numberIn? 16 digits

/-- Two words in the form of four bytes. -/
def tail? (text : List Char) : Option (List Nat) :=
  let decimal (d : List Char) : Option Nat :=
    match d with
    | [] => none
    | '0' :: _ :: _ => none
    | _ => (numberIn? 10 d).filter (· < 256)
  match (splitAt (· == '.') text).mapM decimal with
  | some [a, b, c, d] => some [a * 256 + b, c * 256 + d]
  | _ => none

/-- Reads words with colons between them; the last two may be in the form of
    four bytes. -/
def words? (text : List Char) (last : Bool) : Option (List Nat) :=
  if text.isEmpty then some []
  else
    let all := splitAt (· == ':') text
    match all.reverse with
    | final :: before =>
      if last && final.contains '.' then do
        let front ← before.reverse.mapM word?
        let two ← tail? final
        pure (front ++ two)
      else all.mapM word?
    | [] => none

/-- Cuts a text at its first two colons in a row. -/
def splitGap (before : List Char) : List Char → Option (List Char × List Char)
  | ':' :: ':' :: rest => some (before.reverse, rest)
  | c :: rest => splitGap (c :: before) rest
  | [] => none

/-- Reads an address of eight words. Two colons in a row stand, once, for at
    least one word of zero. -/
def eight? (text : List Char) : Option (List Nat) :=
  match splitGap [] text with
  | some (before, after) => do
    let front ← words? before false
    let back ← words? after true
    -- Too many words leave none missing as well.
    let missing := 8 - (front.length + back.length)
    if missing = 0 then none else pure (front ++ List.replicate missing 0 ++ back)
  | none => (words? text true).filter fun w => w.length == 8

/-- The first of the longest runs of at least two zeros: where it begins and
    how long it is. -/
def zeroRun (words : List Nat) : Option (Nat × Nat) :=
  let runs := (List.range words.length).map fun i =>
    (i, ((words.drop i).takeWhile (· == 0)).length)
  runs.foldl
    (fun best r =>
      match best with
      | some b => if b.2 < r.2 then some r else some b
      | none => if 1 < r.2 then some r else none) none

/-- Words with colons between them. -/
def renderWords (words : List Nat) : List Char :=
  [':'].intercalate (words.map (Nat.toDigits 16))

/-- What the host of no scheme can hold. -/
def isForbidden (c : Char) : Bool :=
  ['\x00', '\t', '\n', '\r', ' ', '#', '/', ':', '<', '>', '?', '@', '[', '\\', ']', '^', '|'].contains c

namespace Host

/-- Reads what stands between brackets. -/
def parseBracketed? (text : List Char) : Option Host :=
  match text.reverse with
  | ']' :: inner => (eight? inner.reverse).map .eight
  | _ => none

/-- Reads a host of the web. -/
def parseWeb? (text : List Char) : Option Host :=
  match text with
  | '[' :: rest => parseBracketed? rest
  | _ => do
    -- Bytes that are encoded may spell any character, so they come first.
    let bytes := percentDecode (String.ofList text).toUTF8.toList
    let decoded ← String.fromUTF8? ⟨bytes.toArray⟩
    let name ← Idna.toAscii? decoded.toList
    if name.isEmpty then none
    else if endsInNumber name then (four? name).map .four
    else pure (.name name)

/-- Reads a host of another scheme. -/
def parseOpaque? (text : List Char) : Option Host :=
  match text with
  | '[' :: rest => parseBracketed? rest
  | _ => if text.any isForbidden then none else some (.name (encodeWith inOpaque text))

/-- Writes a host. -/
def render : Host → List Char
  | .name text => text
  | .four n =>
    ['.'].intercalate
      ([n / Nat.pow 256 3, n / Nat.pow 256 2 % 256, n / 256 % 256, n % 256].map (Nat.toDigits 10))
  | .eight words =>
    let body :=
      match zeroRun words with
      | some (start, size) =>
        renderWords (words.take start) ++ ':' :: ':' :: renderWords (words.drop (start + size))
      | none => renderWords words
    '[' :: body ++ [']']

end Host

end Url

end TxRelay
