import TxRelay.Url.Idna.Direction
import TxRelay.Url.Idna.Joining
import TxRelay.Url.Idna.Mapping
import TxRelay.Url.Punycode

/-!
# Domain Names in ASCII

A domain name may hold characters of any script and still has one written form
in ASCII. Its characters are replaced by those they stand for, the text is
composed, and every label that is not ASCII is written as a code. A label that
already is a code has to be the code of a label that could stand in its place.

## Main definitions

* `Url.Idna.Label`: A label as it is read and as it is written.
* `Url.Idna.Label.ofText?`: Reads a label.
* `Url.Idna.toAscii?`: The written form of a domain name.
-/

namespace TxRelay

namespace Url

/-- Cuts a text at every character of a kind. There is always one part. -/
def splitAt (cut : Char → Bool) : List Char → List (List Char)
  | [] => [[]]
  | c :: rest =>
    if cut c then [] :: splitAt cut rest
    else
      match splitAt cut rest with
      | [] => [[c]]
      | part :: parts => (c :: part) :: parts

namespace Idna

open Text

/-- Whether a character is ASCII. -/
def isAscii (c : Char) : Bool :=
  c.toNat < 128

/-- What no domain name can hold: blanks, controls, and the marks between the
    parts of a URL. -/
def isDenied (c : Char) : Bool :=
  c.toNat ≤ 32 || c.toNat == 127 ||
    ['#', '%', '/', ':', '<', '>', '?', '@', '[', '\\', ']', '^', '|'].contains c

/-- What the written form of a label begins with if the rest is a code. -/
def codeMark : List Char := ['x', 'n', '-', '-']

/-- How long a code may be. -/
def maxCodeLength : Nat := 2000

/-- How long a label that is not ASCII may be. -/
def maxLabelLength : Nat := 1000

/-- A label as it is read and as it is written. -/
structure Label where
  /-- As it is read. -/
  shown : List Char
  /-- As it is written, in ASCII. -/
  written : List Char

namespace Label

/-- Whether the characters of a label may stand together: it does not begin
    with a mark, and joiners stand where they may. -/
def isWellFormed (label : List Char) : Bool :=
  !(label.head?.any isMark) && joinersFit label

/-- Reads a label behind the mark of codes. -/
def ofCode? (code : List Char) : Option Label :=
  if code.length ≤ maxCodeLength && code.all isAscii && code.getLast?.any (· != '-') then
    match Punycode.decode? code with
    | some label =>
      if label.all (fun c => isKept c && !isDenied c) && composed label == label &&
          isWellFormed label && label.length ≤ maxLabelLength then
        some ⟨label, codeMark ++ code⟩
      else none
    | none => none
  else none

/-- Reads a label of characters that were replaced and composed. -/
def ofText? (label : List Char) : Option Label :=
  if codeMark.isPrefixOf label then ofCode? (label.drop codeMark.length)
  else if !isWellFormed label then none
  else if label.all isAscii then some ⟨label, label⟩
  else if label.length ≤ maxLabelLength then some ⟨label, codeMark ++ Punycode.encode label⟩
  else none

end Label

/-- The written form of a domain name. -/
def toAscii? (domain : List Char) : Option (List Char) := do
  let text := composed (← domain.mapM mapped?).flatten
  if text.any isDenied then none
  else
    let labels ← (splitAt (· == '.') text).mapM Label.ofText?
    -- One label read from the right puts the rule on all of them.
    if labels.any (needsOrder ·.shown) && !labels.all (isOrdered ·.shown) then none
    else pure (['.'].intercalate (labels.map Label.written))

end Idna

end Url

end TxRelay
