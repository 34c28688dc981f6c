import TxRelay.Bytes

/-!
# Hexadecimal Text

Byte strings are written as pairs of hexadecimal digits, in lower case. Two
readers exist, because the two texts a caller can send are read by different
rules.

A raw transaction is read strictly: the number of bytes of the text must be
even, and the first byte that is no digit is reported with its position. An
account is read leniently: blanks between digits do not count, and a text
that ends too early or goes on too long is reported only as a wrong length.

## Main definitions

* `Hex.digit?`: The value of a digit of either case.
* `Hex.encode`, `Hex.encodePrefixed`: A byte string as lower-case text.
* `Hex.decode`: The strict reader.
* `Hex.readAddress`: The lenient reader, for accounts.
-/

namespace TxRelay

namespace Hex

/-- The value of a hexadecimal digit, given as a byte of text. -/
def digit? (c : UInt8) : Option UInt8 :=
  if 48 ≤ c && c ≤ 57 then some (c - 48)
  else if 97 ≤ c && c ≤ 102 then some (c - 87)
  else if 65 ≤ c && c ≤ 70 then some (c - 55)
  else none

/-- The lower-case digit of a value below sixteen. -/
def digitChar (v : UInt8) : Char :=
  if v < 10 then Char.ofNat (48 + v.toNat) else Char.ofNat (87 + v.toNat)

/-- The two digits of each byte, the high one first. -/
def digits : Bytes → List Char
  | [] => []
  | b :: rest => digitChar (b >>> 4) :: digitChar (b &&& 15) :: digits rest

/-- A byte string as lower-case text. -/
def encode (bytes : Bytes) : String :=
  String.ofList (digits bytes)

/-- A byte string as lower-case text after `0x`. -/
def encodePrefixed (bytes : Bytes) : String :=
  "0x" ++ encode bytes

/-- What is wrong with a text that should be strict hexadecimal. -/
inductive Fault where
  /-- The text has an odd number of bytes. -/
  | oddLength
  /-- This byte, at this position, is no digit. -/
  | invalidByte (byte : UInt8) (position : Nat)
  deriving DecidableEq

/-- Reads pairs of digits; `position` is that of the first byte. -/
def decodePairs (position : Nat) : Bytes → Except Fault Bytes
  | [] => .ok []
  | [_] => .error .oddLength
  | high :: low :: rest =>
    match digit? high with
    | none => .error (.invalidByte high position)
    | some h =>
      match digit? low with
      | none => .error (.invalidByte low (position + 1))
      | some l => (decodePairs (position + 2) rest).map ((h <<< 4 ||| l) :: ·)

/-- Reads a text of hexadecimal digits strictly: an odd length is reported
    before any byte is looked at. -/
def decode (text : Bytes) : Except Fault Bytes :=
  if text.length % 2 = 0 then decodePairs 0 text else .error .oddLength

/-- The text without one leading `0x`. -/
def strip0x : Bytes → Bytes
  | 48 :: 120 :: rest => rest
  | text => text

/-- A byte that separates digits without counting. -/
def isBlank (c : UInt8) : Bool :=
  c == 32 || c == 13 || c == 10 || c == 9

/-- Why a text is no account. -/
inductive AddressFault where
  /-- The text has too few or too many digits. -/
  | invalidLength
  /-- The character at this byte position is no digit. -/
  | invalidChar (c : Char) (position : Nat)
  deriving DecidableEq

namespace AddressFault

/-- The wording of the fault. -/
def message : AddressFault → String
  | .invalidLength => "Invalid input length"
  | .invalidChar c position =>
    "Invalid character '" ++ c.toString ++ "' at position " ++ toString position

end AddressFault

/-- Reads one byte from a text, given as characters with their byte positions.
    `high` is the first digit once it is known. The end of the text is no
    byte; a text that ends between two digits is a wrong length. -/
def nextByte (high : Option UInt8) :
    List (Char × Nat) → Except AddressFault (Option (UInt8 × List (Char × Nat)))
  | [] => if high.isSome then .error .invalidLength else .ok none
  | (c, position) :: rest =>
    if c.toNat < 128 && isBlank c.toNat.toUInt8 then nextByte high rest
    else
      match (if c.toNat < 128 then digit? c.toNat.toUInt8 else none) with
      | none => .error (.invalidChar c position)
      | some d =>
        match high with
        | none => nextByte (some d) rest
        | some h => .ok (some (h <<< 4 ||| d, rest))

/-- Reads exactly `n` bytes. Whatever follows them, other than blanks, makes
    the length wrong, also if it is no digit. -/
def readExactly : Nat → List (Char × Nat) → Except AddressFault Bytes
  | 0, text =>
    match nextByte none text with
    | .ok none => .ok []
    | _ => .error .invalidLength
  | n + 1, text =>
    match nextByte none text with
    | .error e => .error e
    | .ok none => .error .invalidLength
    | .ok (some (b, rest)) => (readExactly n rest).map (b :: ·)

/-- Characters with the byte positions at which they begin. -/
def positions (start : Nat) : List Char → List (Char × Nat)
  | [] => []
  | c :: rest => (c, start) :: positions (start + c.utf8Size) rest

/-- Reads an account: forty digits of either case, after at most one `0x`.
    Positions count from behind the `0x`. -/
def readAddress (text : String) : Except AddressFault Address :=
  let chars := match text.toList with
    | '0' :: 'x' :: rest => rest
    | all => all
  (readExactly 20 (positions 0 chars)).map (FixedBytes.ofListPadded 20)

end Hex

end TxRelay
