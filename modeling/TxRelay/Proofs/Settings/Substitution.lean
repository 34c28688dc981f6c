import TxRelay.Proofs.Settings.Rules

/-!
# One Pass of Substitution

Which placeholders a text holds is said here by the text alone: a placeholder is
wherever it is written, dollar sign, braces and a name between them. No two of them
overlap, because a placeholder has no dollar sign but its first character. So it does
not matter in which direction a text is read, or what a reader tried before, and every
position of a text can be judged on its own: a placeholder begins there, or it lies
within one, or its character stands for itself. `Becomes` is that judgement, and
`Substituted` puts a text together from the judgements of all its positions.

Substitution does just this. As the judgements look at the given text and at nothing
that was put into it, values are not read again, and a placeholder that comes about
only because of a value is none.

## Main definitions

* `Placeholder.IsName`: The names of variables.
* `Placeholder.Occurs`: A placeholder is written at a position of a text.
* `Placeholder.Becomes`: What a position of a text is replaced by.
* `Placeholder.Substituted`: All positions are replaced at once.

## Theorems

* `placeholder?_eq_some`: A placeholder is found where one is written.
* `Placeholder.Occurs.apart`: Placeholders do not overlap.
* `Placeholder.Substituted.append`: A text can be cut where no placeholder is cut.
* `Placeholder.substituted_ofText`: Segments are replaced as positions are.
* `Placeholder.placeholders_replaced_at_once`: What substitution does.
-/

namespace TxRelay

namespace Placeholder

/-- A name of a variable: capital letters, digits and underscores, of which a digit
    is not the first. -/
def IsName (name : List Char) : Prop :=
  ∃ c rest, name = c :: rest ∧ (c.isUpper = true ∨ c = '_') ∧
    ∀ d ∈ rest, d.isUpper = true ∨ d.isDigit = true ∨ d = '_'

/-- A placeholder as it is written. -/
def written (name : List Char) : List Char :=
  '$' :: '\x7b' :: name ++ ['\x7d']

theorem length_written (name : List Char) : (written name).length = name.length + 3 := by
  simp [written]

/-- The placeholder of a name is written at a position of a text. -/
structure Occurs (text : List Char) (i : Nat) (name : List Char) : Prop where
  /-- It has a name. -/
  named : IsName name
  /-- It is written there. -/
  here : written name <+: text.drop i

/-- What the position of a text is replaced by. -/
inductive Becomes (environment : String → Option String) (text : List Char) (i : Nat) :
    List Char → Prop where
  /-- A placeholder begins there. All of it is replaced by the value of its variable, or by
      nothing. -/
  | value {name : List Char} (occurs : Occurs text i name) :
      Becomes environment text i ((environment (String.ofList name)).getD "").toList
  /-- It is within a placeholder that was replaced as a whole. -/
  | within {j : Nat} {name : List Char} (occurs : Occurs text j name) (after : j < i)
      (before : i < j + (written name).length) : Becomes environment text i []
  /-- It is in no placeholder, and its character stays. -/
  | kept {c : Char} (here : text[i]? = some c)
      (outside : ∀ j name, Occurs text j name → i < j ∨ j + (written name).length ≤ i) :
      Becomes environment text i [c]

/-- All positions of a text are replaced at once, and what comes of them stays in order. -/
def Substituted (environment : String → Option String) (text out : List Char) : Prop :=
  ∃ pieces : List (List Char), pieces.length = text.length ∧
    (∀ i piece, pieces[i]? = some piece → Becomes environment text i piece) ∧
    out = pieces.flatten

section Names

variable {c : Char} {name : List Char}

theorem isNameStart_iff : isNameStart c = true ↔ c.isUpper = true ∨ c = '_' := by
  have upper : c.isUpper = true ↔ 'A' ≤ c ∧ c ≤ 'Z' := decide_eq_true_iff
  rw [isNameStart, upper, Bool.or_eq_true, Bool.and_eq_true, decide_eq_true_iff,
    decide_eq_true_iff, decide_eq_true_iff]

theorem isNameChar_iff :
    isNameChar c = true ↔ c.isUpper = true ∨ c.isDigit = true ∨ c = '_' := by
  unfold isNameChar
  have digit : c.isDigit = ('0' ≤ c && c ≤ '9') := rfl
  rw [digit, Bool.or_eq_true, isNameStart_iff, or_right_comm, or_assoc]

-- A name holds nothing but characters that a name may go on with.
theorem IsName.isNameChar (named : IsName name) (mem : c ∈ name) : isNameChar c = true := by
  rcases named with ⟨first, rest, rfl, start, more⟩
  rcases List.mem_cons.mp mem with rfl | later
  · exact isNameChar_iff.mpr (start.imp_right Or.inr)
  · exact isNameChar_iff.mpr (more c later)

/-- A placeholder is found where one is written. -/
theorem placeholder?_eq_some {text after : List Char} :
    placeholder? text = some (name, after) ↔ IsName name ∧ text = written name ++ after := by
  constructor
  · intro found
    have parts := eq_of_placeholder? found
    refine ⟨?_, by rw [parts]; simp [written]⟩
    -- The name was taken from the text as far as it goes.
    unfold placeholder? at found
    split at found
    · split at found
      · rename_i rest _ _ first more _ taken _
        split at found
        · rename_i start
          obtain ⟨rfl, -⟩ := Prod.mk.inj (Option.some.inj found)
          refine ⟨first, more, rfl, isNameStart_iff.mp start, fun d mem => ?_⟩
          have within : d ∈ rest.takeWhile isNameChar := taken ▸ List.mem_cons_of_mem first mem
          exact isNameChar_iff.mp (List.mem_takeWhile_imp within)
        · exact absurd found (by simp)
      · exact absurd found (by simp)
    · exact absurd found (by simp)
  · rintro ⟨named, rfl⟩
    have all : ∀ d ∈ name, isNameChar d = true := fun d mem => named.isNameChar mem
    have ends : isNameChar '\x7d' = false := by decide
    have taken : (name ++ '\x7d' :: after).takeWhile isNameChar = name := by
      rw [List.takeWhile_append_of_pos all, List.takeWhile_cons_of_neg (by simp [ends]),
        List.append_nil]
    have left : (name ++ '\x7d' :: after).dropWhile isNameChar = '\x7d' :: after := by
      rw [List.dropWhile_append_of_pos all, List.dropWhile_cons_of_neg (by simp [ends])]
    have shape : written name ++ after = '$' :: '\x7b' :: (name ++ '\x7d' :: after) := by
      simp [written]
    rcases named with ⟨first, rest, rfl, start, -⟩
    rw [shape]
    simp only [placeholder?, taken, left]
    exact if_pos (isNameStart_iff.mpr start)

end Names

section Positions

variable {text before after : List Char} {i j : Nat} {name other : List Char}

theorem occurs_iff_placeholder? :
    Occurs text i name ↔ ∃ rest, placeholder? (text.drop i) = some (name, rest) := by
  constructor
  · rintro ⟨named, rest, here⟩
    exact ⟨rest, placeholder?_eq_some.mpr ⟨named, here.symm⟩⟩
  · rintro ⟨rest, found⟩
    rcases placeholder?_eq_some.mp found with ⟨named, here⟩
    exact ⟨named, rest, here.symm⟩

-- At one position there is one placeholder.
theorem Occurs.unique (occurs : Occurs text i name) (again : Occurs text i other) :
    name = other := by
  rcases occurs_iff_placeholder?.mp occurs with ⟨rest, found⟩
  rcases occurs_iff_placeholder?.mp again with ⟨more, refound⟩
  exact (Prod.mk.inj (Option.some.inj (found.symm.trans refound))).1

-- The characters of a placeholder are those of the text.
theorem Occurs.getElem? (occurs : Occurs text i name) {k : Nat}
    (short : k < (written name).length) : text[i + k]? = (written name)[k]? := by
  rcases occurs.here with ⟨rest, here⟩
  rw [← List.getElem?_drop, ← here, List.getElem?_append_left short]

-- A placeholder begins with a dollar sign and has no other.
theorem Occurs.dollar (occurs : Occurs text i name) : text[i]? = some '$' :=
  occurs.getElem? (k := 0) (by simp [written])

theorem Occurs.no_dollar (occurs : Occurs text i name) (after : i < j)
    (before : j < i + (written name).length) : text[j]? ≠ some '$' := by
  intro dollar
  obtain ⟨k, rfl⟩ := Nat.exists_eq_add_of_lt after
  rw [Nat.add_assoc, occurs.getElem? (by omega)] at dollar
  have mem : '$' ∈ '\x7b' :: name ++ ['\x7d'] := by
    rw [written, List.cons_append, List.getElem?_cons_succ] at dollar
    exact List.mem_of_getElem? dollar
  have letter : '$' ∈ name := by simpa using mem
  exact absurd (occurs.named.isNameChar letter) (by decide)

/-- Placeholders do not overlap. -/
theorem Occurs.apart (occurs : Occurs text i name) (next : Occurs text j other) (less : i < j) :
    i + (written name).length ≤ j :=
  Nat.not_lt.mp fun within => occurs.no_dollar less within next.dollar

-- What stands before a text moves its positions.
theorem occurs_append_right :
    Occurs (before ++ text) (before.length + i) name ↔ Occurs text i name := by
  have same : (before ++ text).drop (before.length + i) = text.drop i := by
    rw [List.drop_append]
    simp
  exact ⟨fun o => ⟨o.named, same ▸ o.here⟩, fun o => ⟨o.named, same.symm ▸ o.here⟩⟩

-- What stands behind a text leaves its placeholders, and can only cut off new ones.
theorem Occurs.append_left (occurs : Occurs text i name) (after : List Char) :
    Occurs (text ++ after) i name := by
  rcases occurs with ⟨named, rest, here⟩
  refine ⟨named, rest ++ after, ?_⟩
  have short : i ≤ text.length := by
    refine Nat.not_lt.mp fun long => ?_
    rw [List.drop_eq_nil_of_le (Nat.le_of_lt long)] at here
    exact absurd (congrArg List.length here) (by simp [written])
  rw [← List.append_assoc, here, List.drop_append_of_le_length short]

end Positions

section Pieces

variable {environment : String → Option String} {text rest : List Char} {i : Nat}
  {a b piece : List Char}

/-- A position is replaced in one way. -/
theorem Becomes.unique (one : Becomes environment text i a) (other : Becomes environment text i b) :
    a = b := by
  cases one with
  | value occurs =>
    cases other with
    | value again => rw [occurs.unique again]
    | within around after before => exact absurd (around.apart occurs after) (Nat.not_le.mpr before)
    | kept here outside =>
      have apart := outside i _ occurs
      rw [length_written] at apart
      omega
  | within around after before =>
    cases other with
    | value occurs => exact absurd (around.apart occurs after) (Nat.not_le.mpr before)
    | within => rfl
    | kept here outside =>
      have := outside _ _ around
      omega
  | kept here outside =>
    cases other with
    | value occurs =>
      have apart := outside i _ occurs
      rw [length_written] at apart
      omega
    | within around after before =>
      have := outside _ _ around
      omega
    | kept again => rw [Option.some.inj (here.symm.trans again)]

/-- There is one way to replace all positions. -/
theorem Substituted.unique (one : Substituted environment text a)
    (other : Substituted environment text b) : a = b := by
  rcases one with ⟨pieces, length, becomes, rfl⟩
  rcases other with ⟨others, length', becomes', rfl⟩
  refine congrArg List.flatten (List.ext_getElem (length.trans length'.symm) fun i here there => ?_)
  exact (becomes i _ (List.getElem?_eq_getElem here)).unique
    (becomes' i _ (List.getElem?_eq_getElem there))

/-- No placeholder of a text reaches over the place where it is cut. -/
def Uncut (text rest : List Char) : Prop :=
  ∀ i name, Occurs (text ++ rest) i name → i < text.length →
    i + (written name).length ≤ text.length

-- Then the placeholders before that place are those of the first part.
theorem Uncut.occurs (uncut : Uncut text rest) {name : List Char}
    (occurs : Occurs (text ++ rest) i name) (less : i < text.length) : Occurs text i name := by
  have short := uncut i name occurs less
  refine ⟨occurs.named, ?_⟩
  have here := occurs.here
  rw [List.drop_append_of_le_length (Nat.le_of_lt less)] at here
  exact List.prefix_of_prefix_length_le here (List.prefix_append _ _)
    (by rw [List.length_drop]; omega)

-- A position of the first part is replaced as in the whole.
theorem Becomes.append_left (uncut : Uncut text rest) (becomes : Becomes environment text i piece) :
    Becomes environment (text ++ rest) i piece := by
  cases becomes with
  | value occurs => exact .value (occurs.append_left rest)
  | within around after before => exact .within (around.append_left rest) after before
  | kept here outside =>
    have less : i < text.length := (List.getElem?_eq_some_iff.mp here).1
    refine .kept ((List.getElem?_append_left less).trans here) fun j name occurs => ?_
    by_cases first : j < text.length
    · exact outside j name (uncut.occurs occurs first)
    · exact Or.inl (by omega)

-- So is one of the second part.
theorem Becomes.append_right (uncut : Uncut text rest)
    (becomes : Becomes environment rest i piece) :
    Becomes environment (text ++ rest) (text.length + i) piece := by
  cases becomes with
  | value occurs => exact .value (occurs_append_right.mpr occurs)
  | within around after before =>
    exact .within (occurs_append_right.mpr around) (by omega) (by omega)
  | kept here outside =>
    refine .kept ?_ fun j name occurs => ?_
    · rw [List.getElem?_append_right (Nat.le_add_right _ _), Nat.add_sub_cancel_left, here]
    · by_cases first : j < text.length
      · have := uncut j name occurs first
        exact Or.inr (by omega)
      · obtain ⟨k, rfl⟩ := Nat.exists_eq_add_of_le (Nat.le_of_not_lt first)
        have := outside k name (occurs_append_right.mp occurs)
        omega

/-- A text can be cut where no placeholder is cut. -/
theorem Substituted.append (uncut : Uncut text rest) (first : Substituted environment text a)
    (second : Substituted environment rest b) :
    Substituted environment (text ++ rest) (a ++ b) := by
  rcases first with ⟨pieces, length, becomes, rfl⟩
  rcases second with ⟨others, length', becomes', rfl⟩
  refine ⟨pieces ++ others, by simp [length, length'], fun i piece here => ?_, by simp⟩
  by_cases less : i < pieces.length
  · rw [List.getElem?_append_left less] at here
    exact (becomes i piece here).append_left uncut
  · obtain ⟨k, rfl⟩ := Nat.exists_eq_add_of_le (Nat.le_of_not_lt less)
    rw [List.getElem?_append_right (Nat.le_add_right _ _), Nat.add_sub_cancel_left] at here
    rw [length]
    exact (becomes' k piece here).append_right uncut

end Pieces

section Segments

variable (environment : String → Option String) {text : List Char} {c : Char} {name : List Char}

theorem substituted_nil : Substituted environment [] [] :=
  ⟨[], rfl, fun i piece here => absurd here (by simp), rfl⟩

-- A single character is no placeholder.
theorem substituted_char (c : Char) : Substituted environment [c] [c] := by
  refine ⟨[[c]], rfl, fun i piece here => ?_, rfl⟩
  obtain ⟨rfl, rfl⟩ : i = 0 ∧ [c] = piece := by
    cases i with
    | zero => exact ⟨rfl, Option.some.inj here⟩
    | succ i => exact absurd here (by simp)
  refine .kept rfl fun j other occurs => ?_
  rcases occurs.here with ⟨rest, here⟩
  have := congrArg List.length here
  simp only [List.length_append, length_written, List.length_drop, List.length_singleton] at this
  omega

-- A placeholder alone is replaced by its value.
theorem substituted_written (named : IsName name) :
    Substituted environment (written name)
      ((environment (String.ofList name)).getD "").toList := by
  have occurs : Occurs (written name) 0 name := ⟨named, List.prefix_rfl⟩
  refine ⟨((environment (String.ofList name)).getD "").toList ::
      List.replicate (name.length + 2) [],
    by simp [length_written], fun i piece here => ?_, by simp⟩
  cases i with
  | zero =>
    rw [← Option.some.inj here]
    exact .value occurs
  | succ i =>
    rw [List.getElem?_cons_succ] at here
    obtain ⟨less, rfl⟩ := List.getElem?_eq_some_iff.mp here
    rw [List.getElem_replicate]
    rw [List.length_replicate] at less
    exact .within occurs (Nat.succ_pos i) (by rw [length_written]; omega)

-- Behind a character that begins no placeholder, and behind a placeholder, none is cut.
theorem uncut_char (none : placeholder? (c :: text) = none) : Uncut [c] text := by
  intro i other occurs less
  obtain rfl : i = 0 := Nat.lt_one_iff.mp less
  rcases occurs_iff_placeholder?.mp occurs with ⟨rest, found⟩
  exact absurd (none.symm.trans found) (by simp)

theorem uncut_written (named : IsName name) (text : List Char) : Uncut (written name) text := by
  intro i other occurs less
  have first : Occurs (written name ++ text) 0 name := ⟨named, List.prefix_append _ _⟩
  rcases Nat.eq_zero_or_pos i with rfl | later
  · rw [Nat.zero_add, occurs.unique first]
  · exact absurd (first.apart occurs later) (by omega)

/-- Segments are replaced as positions are. By induction on how the text is cut into
    segments. -/
theorem substituted_ofText (text : List Char) :
    Substituted environment text ((Segment.ofText text).flatMap (Segment.value environment)) := by
  fun_induction Segment.ofText text with
  | case1 => exact substituted_nil environment
  | case2 c rest name after found ih =>
    rcases placeholder?_eq_some.mp found with ⟨named, parts⟩
    rw [parts, List.flatMap_cons]
    exact (substituted_written environment named).append (uncut_written named after) ih
  | case3 c rest found ih =>
    rw [List.flatMap_cons]
    exact (substituted_char environment c).append (uncut_char found) ih

-- A text without placeholders stays as it is.
theorem substituted_of_free (free : ∀ i name, ¬Occurs text i name) :
    Substituted environment text text := by
  refine ⟨text.map fun c => [c], by simp, fun i piece here => ?_,
    by rw [← List.flatMap_def, List.flatMap_singleton']⟩
  obtain ⟨c, found, rfl⟩ : ∃ c, text[i]? = some c ∧ [c] = piece := by simpa using here
  exact .kept found fun j name occurs => absurd occurs (free j name)

-- A text can be cut at any of its placeholders.
theorem uncut_before (named : IsName name) (before after : List Char) :
    Uncut before (written name ++ after) := by
  intro i other occurs less
  have here : Occurs (before ++ (written name ++ after)) before.length name :=
    occurs_append_right (i := 0) |>.mpr ⟨named, List.prefix_append _ _⟩
  exact occurs.apart here less

end Segments

section Law

variable (environment : String → Option String) (text : String)

-- What substitution makes of a text, position by position.
theorem substituted_substitute :
    Substituted environment text.toList (substitute environment text).toList := by
  unfold substitute
  rw [String.toList_ofList]
  exact substituted_ofText environment text.toList

variable {environment text}

theorem substitute_eq {out : String} (one : Substituted environment text.toList out.toList) :
    substitute environment text = out :=
  String.toList_injective ((substituted_substitute environment text).unique one)

end Law

/-- What substitution does. Every position of the text is replaced as the given text says
    there, in one way, and what comes of all positions stays in order; the placeholders of
    the text do not overlap. So a placeholder can be replaced wherever it is written, by
    the value of its variable as it is or by nothing, and what stands before it and behind
    it is a text of its own, with which the value has nothing to do. A text without
    placeholders stays as it is. Settings are read from what comes out. -/
theorem placeholders_replaced_at_once (environment : String → Option String) (text : String) :
    let value := fun name => (environment (String.ofList name)).getD ""
    (∀ out : String, substitute environment text = out ↔
      Substituted environment text.toList out.toList) ∧
    (∀ i j name other, Occurs text.toList i name → Occurs text.toList j other → i < j →
      i + (written name).length ≤ j) ∧
    (∀ before name after, IsName name →
      text = String.ofList before ++ String.ofList (written name) ++ String.ofList after →
        substitute environment text = substitute environment (String.ofList before) ++
          value name ++ substitute environment (String.ofList after)) ∧
    ((∀ i name, ¬Occurs text.toList i name) → substitute environment text = text) ∧
    ∀ s, Settings.ofText environment text = .ok s ↔
      ∃ out : String, Substituted environment text.toList out.toList ∧
        Settings.parse out = some s ∧ s.validate = .ok () := by
  intro value
  refine ⟨fun out => ⟨fun same => ?_, substitute_eq⟩, fun i j name other occurs next less =>
    occurs.apart next less, fun before name after named parts => ?_, fun free => ?_, fun s => ?_⟩
  · exact same ▸ substituted_substitute environment text
  · refine substitute_eq ?_
    have left := substituted_substitute environment (String.ofList before)
    have right := substituted_substitute environment (String.ofList after)
    rw [String.toList_ofList] at left right
    have joined := left.append (uncut_before named before after)
      ((substituted_written environment named).append (uncut_written named after) right)
    rw [parts]
    simpa [value, List.append_assoc] using joined
  · exact substitute_eq (substituted_of_free environment free)
  · rw [Settings.ofText_eq_ok, ← Settings.validate_eq_ok]
    constructor
    · exact fun accepted => ⟨_, substituted_substitute environment text, accepted⟩
    · rintro ⟨out, one, accepted⟩
      exact substitute_eq one ▸ accepted

/-- Only the placeholder inside of a candidate that is none is replaced, and what that
    makes of the candidate is not looked at again. -/
example :
    substitute (fun n => if n = "A" then some "$\x7bB\x7d" else some "?")
        "$\x7b$\x7bA\x7dB\x7d $\x7b\x7d $\x7ba\x7d $\x7b1A\x7d $\x7bA" =
      "$\x7b$\x7bB\x7dB\x7d $\x7b\x7d $\x7ba\x7d $\x7b1A\x7d $\x7bA" := by
  decide +kernel

end Placeholder

end TxRelay
