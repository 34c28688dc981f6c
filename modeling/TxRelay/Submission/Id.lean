import TxRelay.Bytes.Hex

/-!
# Submission Identifiers

A submission carries an identifier of 128 bits, which a caller finds in the
answer. It is written as hexadecimal digits in five groups. It is read from
that form, also in braces or after `urn:uuid:`, and from the digits alone; the
case of letters does not matter.

## Main definitions

* `SubmissionId.parse?`: Reads an identifier.
* `SubmissionId.render`: Writes it.
-/

namespace TxRelay

/-- The identifier of a submission. -/
abbrev SubmissionId := FixedBytes 16

namespace SubmissionId

/-- The sizes of the groups, in digits. -/
def groups : List Nat := [8, 4, 4, 4, 12]

/-- Splits digits into groups of given sizes. -/
def split : List Nat → List Char → List (List Char)
  | [], _ => []
  | n :: rest, digits => digits.take n :: split rest (digits.drop n)

/-- The grouped form. -/
def render (id : SubmissionId) : String :=
  String.intercalate "-" ((split groups (Hex.digits id.toList)).map String.ofList)

/-- The digits of a grouped form, without the hyphens between the groups. -/
def ungroup : List Nat → List Char → Option (List Char)
  | [], [] => some []
  | [n], text => if text.length = n then some text else none
  | n :: rest, text =>
    match text.drop n with
    | '-' :: more => (ungroup rest more).map (text.take n ++ ·)
    | _ => none
  | [], _ => none

/-- What may stand before a grouped form. -/
def urnMark : List Char := "urn:uuid:".toList

/-- The grouped form in a text, without braces around it or a mark before it. -/
def unwrap (text : List Char) : List Char :=
  if (text.take urnMark.length).map Char.toLower = urnMark then text.drop urnMark.length
  else
    match text, text.getLast? with
    | '\x7b' :: rest, some '\x7d' => rest.dropLast
    | _, _ => text

/-- Reads an identifier. -/
def parse? (text : String) : Option SubmissionId :=
  let whole := text.toList
  let digits := if whole.length = 32 then some whole else ungroup groups (unwrap whole)
  match digits.map fun d => Hex.decode (String.ofList d).toUTF8.toList with
  | some (.ok bytes) => FixedBytes.ofList? 16 bytes
  | _ => none

end SubmissionId

end TxRelay
