/-!
# Placeholders

Settings may name variables of the environment, as in `${RPC_URL}`. A name
begins with a capital letter or an underscore and goes on with those and
digits. Every placeholder is replaced by the variable's value, or by nothing
if the variable is not set.

The text is first cut into segments: placeholders, and single characters. Then
every segment is replaced on its own, so values that look like placeholders
are not replaced in turn, and neither is a placeholder that would only come
about by a replacement.

## Main definitions

* `Segment`: A placeholder or a character.
* `Segment.ofText`: Cuts a text.
* `substitute`: Replaces all placeholders.
* `variablesOf`: The variables that placeholders name.

## Theorems

* `Segment.source_ofText`: Cutting loses nothing.
-/

namespace TxRelay

/-- A character that a name may begin with. -/
def isNameStart (c : Char) : Bool :=
  ('A' ≤ c && c ≤ 'Z') || c = '_'

/-- A character that a name may go on with. -/
def isNameChar (c : Char) : Bool :=
  isNameStart c || ('0' ≤ c && c ≤ '9')

/-- The name of the placeholder that a text begins with, and what follows the
    placeholder. -/
def placeholder? (text : List Char) : Option (List Char × List Char) :=
  match text with
  | '$' :: '\x7b' :: rest =>
    match rest.takeWhile isNameChar, rest.dropWhile isNameChar with
    | c :: name, '\x7d' :: after => if isNameStart c then some (c :: name, after) else none
    | _, _ => none
  | _ => none

/-- A placeholder is as long as its name and the three characters around it. -/
theorem eq_of_placeholder? {text name after : List Char} (h : placeholder? text = some (name, after)) :
    text = '$' :: '\x7b' :: name ++ '\x7d' :: after := by
  unfold placeholder? at h
  split at h
  · rename_i rest
    split at h
    · rename_i c more after' hname hafter
      split at h
      · have heq := Option.some.inj h
        rw [Prod.mk.injEq] at heq
        have parts := List.takeWhile_append_dropWhile (p := isNameChar) (l := rest)
        rw [hname, hafter] at parts
        rw [← heq.1, ← heq.2, ← parts]
        rfl
      · exact absurd h (by simp only [reduceCtorEq, not_false_eq_true])
    · exact absurd h (by simp only [reduceCtorEq, not_false_eq_true])
  · exact absurd h (by simp only [reduceCtorEq, not_false_eq_true])

/-- What follows a placeholder is shorter than the text. -/
theorem length_lt_of_placeholder? {text name after : List Char}
    (h : placeholder? text = some (name, after)) : after.length < text.length := by
  rw [eq_of_placeholder? h]
  simp only [List.cons_append, List.length_cons, List.length_append]
  omega

/-- A part of a text with placeholders. -/
inductive Segment where
  /-- A character that stands for itself. -/
  | char (c : Char)
  /-- A placeholder, by its name. -/
  | name (n : List Char)
  deriving DecidableEq

namespace Segment

/-- Cuts a text into segments. -/
def ofText (text : List Char) : List Segment :=
  match text with
  | [] => []
  | c :: rest =>
    match _h : placeholder? (c :: rest) with
    | some (n, after) => .name n :: ofText after
    | none => .char c :: ofText rest
termination_by text.length
decreasing_by
  · exact length_lt_of_placeholder? _h
  · exact Nat.lt_succ_self rest.length

/-- The text of a segment. -/
def source : Segment → List Char
  | .char c => [c]
  | .name n => '$' :: '\x7b' :: n ++ ['\x7d']

/-- What replaces a segment. -/
def value (environment : String → Option String) : Segment → List Char
  | .char c => [c]
  | .name n => ((environment (String.ofList n)).getD "").toList

/-- Cutting loses nothing. -/
theorem source_ofText (text : List Char) : (ofText text).flatMap source = text := by
  fun_induction ofText text with
  | case1 => rfl
  | case2 c rest n after h ih =>
    rw [List.flatMap_cons, ih, eq_of_placeholder? h]
    simp only [source, List.cons_append, List.append_assoc, List.nil_append]
  | case3 c rest h ih =>
    rw [List.flatMap_cons, ih]
    rfl

end Segment

/-- Replaces all placeholders of a text by the values of variables. -/
def substitute (environment : String → Option String) (text : String) : String :=
  String.ofList ((Segment.ofText text.toList).flatMap (Segment.value environment))

/-- The variables that the placeholders of a text name. -/
def variablesOf (text : String) : List String :=
  (Segment.ofText text.toList).filterMap fun s =>
    match s with
    | .name n => some (String.ofList n)
    | .char _ => none

end TxRelay
