import TxRelay.Text.Kind

/-!
# Directions of Writing

A label of a domain name is read from the left or from the right, as its first
character says. In a name with anything that is read from the right every
label has to begin with a letter, end in a letter or a digit, and hold only
characters that keep their places: nothing of the other direction, and digits
of one sort only where the reading goes from the right.

## Main definitions

* `Url.Idna.Direction`: How a character takes part.
* `Url.Idna.directionOf`: The direction of a character.
* `Url.Idna.needsOrder`: Whether a label makes the rule apply.
* `Url.Idna.isOrdered`: The rule for a label.
-/

namespace TxRelay

namespace Url

namespace Idna

open Text

/-- How a character takes part in the direction of a text. -/
inductive Direction where
  /-- It is read from the left. -/
  | left
  /-- It is read from the right. -/
  | right
  /-- It is a digit of the sort used among Arabic letters. -/
  | arabicDigit
  /-- It is a digit of the usual sort. -/
  | digit
  /-- It follows its neighbours. -/
  | neutral
  /-- It is a mark on the character before it. -/
  | mark
  deriving DecidableEq

/-- The direction that a table names. -/
def Direction.ofName (name : List Char) : Direction :=
  match String.ofList name with
  | "right" => .right
  | "arabic" => .arabicDigit
  | "european" => .digit
  | "neutral" => .neutral
  | _ => .left

/-- The directions of all characters of domain names that are no marks and are
    not read from the left. -/
def directions : List (Table.Entry Direction) :=
  Table.groups Direction.ofName
    "right: 5BE-5F4 608 60B 60D 61B-64A 66D-6D5 6E5-6E6 6EE-6EF 6FA-7F5 7FA-8C9 FBB2-FBC2 FE73
     10800-1091B 10920-10B35 10B40-10D23 10D40-10D4F 10D6F-10D8F 10E80-10EC7 10F00-10FF6
     1E800-1ED3D
     arabic: 660-669 66B-66C 10D30-10D39 10E60-10E7E
     european: 30-39 6F0-6F9 102E1-102FB
     neutral: 0-2F 3A-40 5B-60 7B-D7 F7 2B9-2BA 2C2-2CF 2D2-2ED 2EF-2FF 375 3F6 58A-58F 606-607
     609-60A 60C 60E-60F 66A 6DE 6E9 7F6-7F9 9F2-9F3 9FB AF1 BF3-BFA C78-C7E E3F F3A-F3D 1390-1399
     1400 169B-169C 17DB 17F0-180A 1940-1945 19DE-19FF 200C-214D 218A-2335 237B-2394 2396-26AB
     26AD-27FF 2900-2BFF 2CE5-2CEA 2CF9-2CFF 2E00-3004 3008-3020 3030 3037 303D-303F 30A0 30FB
     31C0-31E5 4DC0-4DFF A490-A4C6 A60D-A60F A673-A67F A700-A721 A788 A828-A82B A838-A839 A874-A877
     AB6A-AB6B FBC3-FE46 10101 10140-1018C 10190-101A0 1091F 10B39-10B3F 10D6E 10ED0-10ED8
     11052-11065 11660-1166C 11FD5-11FF1 16FE2 1CC00-1CEF0 1D1E9-1D245 1D300-1D356 1E2FF
     1EEF0-1F12F 1F16D-1F16F 1F1AD 1F260-1FBFA"

/-- Marks that count as letters read from the left. -/
def leftMarks : List Nat := [0xCBF, 0xCC6, 0x11A07, 0x11A08, 0x11C3F]

/-- The direction of a character. -/
def directionOf (c : Char) : Direction :=
  if kindOf c = .nonspacing then (if leftMarks.contains c.toNat then .left else .mark)
  else (Table.lookup? directions c).getD .left

/-- Whether a label makes the rule apply. -/
def needsOrder (label : List Char) : Bool :=
  label.any fun c => directionOf c == .right || directionOf c == .arabicDigit

/-- Whether a text ends in one of some directions, apart from marks. A text of
    marks alone has no end. -/
def endsIn (allowed : List Direction) (directions : List Direction) : Bool :=
  match directions.reverse.dropWhile (· == .mark) with
  | [] => true
  | last :: _ => allowed.contains last

/-- The rule for a label. -/
def isOrdered (label : List Char) : Bool :=
  match label.map directionOf with
  | [] => true
  | .left :: rest =>
    endsIn [.left, .digit] rest && rest.all fun d => d != .right && d != .arabicDigit
  | .right :: rest =>
    endsIn [.right, .digit, .arabicDigit] rest && rest.all (· != .left) &&
      !(rest.contains .digit && rest.contains .arabicDigit)
  | _ => false

end Idna

end Url

end TxRelay
