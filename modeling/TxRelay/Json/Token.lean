import TxRelay.Json.Value

/-!
# JSON Tokens

The first stage of reading JSON text: the text is cut into tokens, up to the
first place where it is no JSON text. That place is marked by a token of its
own, so that a reader who finds a value of the wrong kind before it can report
that instead.

Numbers follow the grammar strictly: no leading zeros, digits on both sides of
a point. In quotes no control characters are allowed, and surrogate codes must
come in pairs; a text with a lone one is kept as undecodable, because it is
only a fault where its value is wanted.

## Main definitions

* `Json.Token`: A token.
* `Json.tokens`: The tokens of a text.
-/

namespace TxRelay

namespace Json

/-- A token. -/
inductive Token where
  /-- An opening brace. -/
  | openObject
  /-- A closing brace. -/
  | closeObject
  /-- An opening bracket. -/
  | openArray
  /-- A closing bracket. -/
  | closeArray
  /-- A colon. -/
  | colon
  /-- A comma. -/
  | comma
  /-- The absent value. -/
  | null
  /-- A truth value. -/
  | bool (b : Bool)
  /-- A number. -/
  | num (n : Number)
  /-- A text, unless it cannot be decoded. -/
  | str (s : Option String)
  /-- No token. -/
  | fault
  deriving DecidableEq

/-- Blanks between tokens. -/
def isBlank (c : Char) : Bool :=
  c = ' ' || c = '\n' || c = '\t' || c = '\r'

/-- Reads digits, of which there has to be one. -/
def digits? (text : List Char) : Option (List Char × List Char) :=
  match text.takeWhile Char.isDigit with
  | [] => none
  | digits => some (digits, text.dropWhile Char.isDigit)

/-- Reads an exponent, if there is one: a letter, perhaps a sign, and digits. -/
def exponent? (text : List Char) : Option (List Char × List Char) :=
  match text with
  | c :: rest =>
    if c == 'e' || c == 'E' then
      match rest with
      | sign :: more =>
        if sign == '+' || sign == '-' then
          (digits? more).map fun p => (c :: sign :: p.1, p.2)
        else (digits? rest).map fun p => (c :: p.1, p.2)
      | [] => none
    else some ([], text)
  | [] => some ([], [])

/-- Reads a point and the digits behind it, if there is one. -/
def fraction? (text : List Char) : Option (List Char × List Char) :=
  match text with
  | '.' :: rest => digits? rest
  | _ => some ([], text)

/-- Reads a number. A zero at its front is its only digit before the point. -/
def number? (negative : Bool) (text : List Char) : Option (Number × List Char) := do
  let (whole, rest) ← digits? text
  if whole.head? == some '0' && 1 < whole.length then none
  else
    let (fraction, rest) ← fraction? rest
    let (exponent, rest) ← exponent? rest
    pure (⟨negative, whole, fraction, exponent⟩, rest)

/-- The value of a hexadecimal digit. -/
def hexDigit? (c : Char) : Option Nat :=
  if c.isDigit then some (c.toNat - 48)
  else if 'a' ≤ c && c ≤ 'f' then some (c.toNat - 87)
  else if 'A' ≤ c && c ≤ 'F' then some (c.toNat - 55)
  else none

/-- The code of four hexadecimal digits. -/
def code4 (a b c d : Char) : Option Nat := do
  let w ← hexDigit? a
  let x ← hexDigit? b
  let y ← hexDigit? c
  let z ← hexDigit? d
  pure (((w * 16 + x) * 16 + y) * 16 + z)

/-- The code units of a text in quotes: characters, and surrogate codes that
    still have to be paired. -/
inductive Piece where
  /-- A character. -/
  | char (c : Char)
  /-- The first code of a pair. -/
  | high (n : Nat)
  /-- The second code of a pair. -/
  | low (n : Nat)

/-- The piece of a code. -/
def Piece.ofCode (n : Nat) : Piece :=
  if 0xD800 ≤ n && n < 0xDC00 then .high n
  else if 0xDC00 ≤ n && n < 0xE000 then .low n
  else .char (Char.ofNat n)

/-- The character behind a backslash. -/
def simpleEscape? (c : Char) : Option Char :=
  if c = '"' || c = '\\' || c = '/' then some c
  else if c = 'b' then some (Char.ofNat 8)
  else if c = 'f' then some (Char.ofNat 12)
  else if c = 'n' then some '\n'
  else if c = 'r' then some '\r'
  else if c = 't' then some '\t'
  else none

/-- Reads the pieces of a text up to the closing quote. -/
def pieces : List Char → Option (List Piece × List Char)
  | [] => none
  | '"' :: rest => some ([], rest)
  | '\\' :: 'u' :: a :: b :: c :: d :: rest => do
    let n ← code4 a b c d
    let more ← pieces rest
    pure (.ofCode n :: more.1, more.2)
  | '\\' :: c :: rest => do
    let e ← simpleEscape? c
    let more ← pieces rest
    pure (.char e :: more.1, more.2)
  | c :: rest =>
    if c.toNat < 32 || c = '\\' then none
    else do
      let more ← pieces rest
      pure (.char c :: more.1, more.2)

/-- Pairs the surrogate codes; a lone one cannot be decoded. -/
def pair : List Piece → Option (List Char)
  | [] => some []
  | .char c :: rest => (pair rest).map (c :: ·)
  | .high h :: .low l :: rest =>
    (pair rest).map (Char.ofNat (65536 + (h - 0xD800) * 1024 + (l - 0xDC00)) :: ·)
  | _ => none

/-- Reads one token; blanks before it are gone. -/
def token : List Char → Option (Token × List Char)
  | [] => none
  | '\x7b' :: rest => some (.openObject, rest)
  | '\x7d' :: rest => some (.closeObject, rest)
  | '[' :: rest => some (.openArray, rest)
  | ']' :: rest => some (.closeArray, rest)
  | ':' :: rest => some (.colon, rest)
  | ',' :: rest => some (.comma, rest)
  | 'n' :: 'u' :: 'l' :: 'l' :: rest => some (.null, rest)
  | 't' :: 'r' :: 'u' :: 'e' :: rest => some (.bool true, rest)
  | 'f' :: 'a' :: 'l' :: 's' :: 'e' :: rest => some (.bool false, rest)
  | '"' :: rest => (pieces rest).map fun p => (.str ((pair p.1).map String.ofList), p.2)
  | '-' :: rest => (number? true rest).map fun n => (.num n.1, n.2)
  | text => (number? false text).map fun n => (.num n.1, n.2)

/-- Reads tokens. Every token takes at least one character, so as many rounds
    as there are characters are enough. -/
def tokensWithin : Nat → List Char → List Token
  | 0, _ => []
  | n + 1, text =>
    match text.dropWhile isBlank with
    | [] => []
    | rest =>
      match token rest with
      | some (t, more) => t :: tokensWithin n more
      | none => [.fault]

/-- The tokens of a text, up to the first fault. -/
def tokens (text : String) : List Token :=
  let chars := text.toList
  tokensWithin chars.length chars

end Json

end TxRelay
