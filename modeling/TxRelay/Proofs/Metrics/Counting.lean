import TxRelay.Metrics.Registry

/-!
# Counting

A counter in double precision is exact until it reaches `2 ^ 53`. There it stops,
because one more is rounded back. So a counter that is raised one at a time
shows how often it was raised as long as it has not stopped, and afterwards it
still shows where it stopped.

The same goes for each label of a family, and a label that was never counted
counts as zero. Labels are kept in order, which is what makes the value under a
label the one that was counted there.

## Main definitions

* `Counter.shown`: What a counter shows that was raised so often.
* `Labelled.value`: The number counted under a label.
* `Labelled.total`: The sum over all labels.
* `Labelled.Sorted`: Labels rise.

## Theorems

* `Counter.add_shown`: One more.
* `Labelled.value_count_self`, `value_count_other`: Counting under a label.
* `Labelled.value_repeat_count`: Counting under a label again and again.
* `Labelled.total_raise`: Counting one more raises the sum.
* `Labelled.shown_raise`: A family shows how often each label was raised.
-/

namespace TxRelay

namespace Counter

/-- Where counters stop. -/
def limit : Nat := Nat.pow 2 53

/-- What a counter shows that was raised so often. -/
def shown (n : Nat) : Nat := min n limit

-- Until it stops, a counter shows how often it was raised.
theorem shown_eq {n : Nat} (small : n ≤ limit) : shown n = n :=
  Nat.min_eq_left small

/-- A counter is raised once more. At its limit it is rounded back. -/
theorem add_shown (n : Nat) : add (shown n) 1 = shown (n + 1) := by
  have stop : add (Nat.pow 2 53 - 1) 1 = Nat.pow 2 53 ∧ add (Nat.pow 2 53) 1 = Nat.pow 2 53 := by
    decide
  unfold shown limit
  rcases Nat.lt_trichotomy (n + 1) (Nat.pow 2 53) with less | same | more
  · rw [Nat.min_eq_left (by omega), Nat.min_eq_left (by omega)]
    exact add_eq_of_lt less
  · rw [Nat.min_eq_left (by omega), same, Nat.min_self, show n = Nat.pow 2 53 - 1 by omega]
    exact stop.1
  · rw [Nat.min_eq_right (by omega), Nat.min_eq_right (by omega)]
    exact stop.2

-- A counter that is raised once, by a whole number, shows that number.
theorem add_ofNat {n : Nat} (small : n ≤ limit) : add 0 (ofNat n) = n := by
  rcases Nat.lt_or_eq_of_le small with less | rfl
  · rw [ofNat, roundFraction_one_of_lt less, add_eq_of_lt (by rw [Nat.zero_add]; exact less),
      Nat.zero_add]
  · decide

end Counter

namespace Labelled

variable {α β : Type} {label other : String}

/-- Labels rise. -/
def Sorted (values : Labelled α) : Prop :=
  values.Pairwise fun a b => a.1 < b.1

-- The labels of a family after a change.
theorem mem_adjust {fresh : α} {change : α → α} {values : Labelled α} {e : String × α}
    (mem : e ∈ adjust label fresh change values) : e.1 = label ∨ ∃ a, (e.1, a) ∈ values := by
  induction values with
  | nil =>
    rw [adjust, List.mem_singleton] at mem
    exact Or.inl (mem ▸ rfl)
  | cons entry rest ih =>
    rcases entry with ⟨l, a⟩
    unfold adjust at mem
    split at mem
    · rename_i here
      rcases List.mem_cons.mp mem with first | later
      · exact Or.inl (by rw [first, here])
      · exact Or.inr ⟨e.2, List.mem_cons_of_mem _ later⟩
    · split at mem
      · rcases List.mem_cons.mp mem with first | later
        · exact Or.inl (by rw [first])
        · exact Or.inr ⟨e.2, later⟩
      · rcases List.mem_cons.mp mem with first | later
        · exact Or.inr ⟨a, by rw [first]; exact List.mem_cons_self⟩
        · rcases ih later with same | ⟨b, mem⟩
          · exact Or.inl same
          · exact Or.inr ⟨b, List.mem_cons_of_mem _ mem⟩

/-- A change keeps the labels in order. -/
theorem sorted_adjust {fresh : α} {change : α → α} {values : Labelled α} (sorted : values.Sorted) :
    (adjust label fresh change values).Sorted := by
  induction values with
  | nil => exact List.pairwise_singleton _ _
  | cons entry rest ih =>
    rcases entry with ⟨l, a⟩
    have split := List.pairwise_cons.mp sorted
    unfold adjust
    by_cases here : label = l
    · rw [if_pos here]
      exact List.pairwise_cons.mpr split
    · rw [if_neg here]
      by_cases before : label < l
      · rw [if_pos before]
        refine List.pairwise_cons.mpr ⟨List.forall_mem_cons.mpr ⟨before, fun e mem => ?_⟩, sorted⟩
        exact String.lt_trans before (split.1 e mem)
      · rw [if_neg before]
        refine List.pairwise_cons.mpr ⟨fun e mem => ?_, ih split.2⟩
        rcases mem_adjust mem with same | ⟨b, mem⟩
        · rw [same]
          refine String.not_le.mp fun le => here ?_
          exact String.le_antisymm le (String.not_lt.mp before)
        · exact split.1 (e.1, b) mem

-- A label before all others is not there.
theorem get?_eq_none {values : Labelled α} (before : ∀ e ∈ values, label < e.1) :
    get? label values = none := by
  refine List.lookup_eq_none_iff.mpr fun e mem => bne_iff_ne.mpr fun same => ?_
  exact String.lt_irrefl label (same ▸ before e mem)

/-- The value at a label that was changed. -/
theorem get?_adjust_self (label : String) (fresh : α) (change : α → α) {values : Labelled α}
    (sorted : values.Sorted) :
    get? label (adjust label fresh change values) =
      some (change ((get? label values).getD fresh)) := by
  induction values with
  | nil => exact List.lookup_cons_self
  | cons entry rest ih =>
    rcases entry with ⟨l, a⟩
    have split := List.pairwise_cons.mp sorted
    unfold adjust
    by_cases here : label = l
    · subst here
      rw [if_pos rfl, get?, get?, List.lookup_cons_self, List.lookup_cons_self]
      rfl
    · rw [if_neg here]
      by_cases before : label < l
      · have absent : get? label ((l, a) :: rest) = none :=
          get?_eq_none (List.forall_mem_cons.mpr
            ⟨before, fun e mem => String.lt_trans before (split.1 e mem)⟩)
        rw [if_pos before, absent, get?, List.lookup_cons_self]
        rfl
      · have other : (label == l) = false := beq_eq_false_iff_ne.mpr here
        rw [if_neg before, get?, get?, List.lookup_cons, List.lookup_cons, other]
        exact ih split.2

-- A value that is set is found, whatever there was before.
theorem get?_adjust_set (label : String) (fresh a : α) (values : Labelled α) :
    get? label (adjust label fresh (fun _ => a) values) = some a := by
  induction values with
  | nil => exact List.lookup_cons_self
  | cons entry rest ih =>
    rcases entry with ⟨l, b⟩
    unfold adjust
    by_cases here : label = l
    · rw [if_pos here, here]
      exact List.lookup_cons_self
    · rw [if_neg here]
      by_cases before : label < l
      · rw [if_pos before]
        exact List.lookup_cons_self
      · have other : (label == l) = false := beq_eq_false_iff_ne.mpr here
        rw [if_neg before, get?, List.lookup_cons, other]
        exact ih

/-- The value at another label. -/
theorem get?_adjust_other (fresh : α) (change : α → α) (values : Labelled α)
    (differ : other ≠ label) :
    get? other (adjust label fresh change values) = get? other values := by
  have no : (other == label) = false := beq_eq_false_iff_ne.mpr differ
  induction values with
  | nil => rw [adjust, get?, List.lookup_cons, no]; rfl
  | cons entry rest ih =>
    rcases entry with ⟨l, a⟩
    unfold adjust
    by_cases here : label = l
    · subst here
      rw [if_pos rfl, get?, get?, List.lookup_cons, List.lookup_cons, no]
    · rw [if_neg here]
      by_cases before : label < l
      · rw [if_pos before, get?, List.lookup_cons, no]
        rfl
      · rw [if_neg before, get?, get?, List.lookup_cons, List.lookup_cons]
        split
        · rfl
        · exact ih

/-- The number counted under a label. -/
def value (label : String) (values : Labelled Nat) : Nat :=
  (get? label values).getD 0

theorem value_count_self (label : String) (n : Nat) {values : Labelled Nat}
    (sorted : values.Sorted) :
    value label (values.count label n) = Counter.add (value label values) n := by
  rw [value, count, get?_adjust_self label 0 _ sorted]
  rfl

theorem value_count_other (n : Nat) (values : Labelled Nat) (differ : other ≠ label) :
    value other (values.count label n) = value other values := by
  rw [value, count, get?_adjust_other 0 _ values differ]
  rfl

/-- Counting one at a time, again and again. -/
theorem value_repeat_count (n : Nat) {values : Labelled Nat} (sorted : values.Sorted)
    (small : value label values ≤ Counter.limit) :
    value label (Nat.repeat (count label 1) n values) = Counter.shown (value label values + n) := by
  -- That labels rise is kept along with the value.
  suffices kept : (Nat.repeat (count label 1) n values).Sorted ∧
      value label (Nat.repeat (count label 1) n values) =
        Counter.shown (value label values + n) from kept.2
  induction n with
  | zero => exact ⟨sorted, (Counter.shown_eq small).symm⟩
  | succ n ih =>
    refine ⟨sorted_adjust ih.1, ?_⟩
    rw [Nat.repeat, value_count_self label 1 ih.1, ih.2, Counter.add_shown]
    rfl

/-- The sum over all labels. -/
def total (values : Labelled Nat) : Nat :=
  values.foldr (fun e n => e.2 + n) 0

@[simp]
theorem total_cons (entry : String × Nat) (rest : Labelled Nat) :
    total (entry :: rest) = entry.2 + total rest :=
  rfl

/-- Raises the number under a label by one, exactly. -/
def raise (label : String) (values : Labelled Nat) : Labelled Nat :=
  adjust label 0 (· + 1) values

/-- What a family shows of exact numbers. -/
def shown (values : Labelled Nat) : Labelled Nat :=
  values.map fun e => (e.1, Counter.shown e.2)

/-- One more under a label is one more in all. -/
theorem total_raise (label : String) (values : Labelled Nat) :
    total (values.raise label) = total values + 1 := by
  unfold raise
  induction values with
  | nil => rfl
  | cons entry rest ih =>
    rcases entry with ⟨l, n⟩
    unfold adjust
    split
    · simp only [total_cons]
      omega
    · split
      · simp only [total_cons]
        omega
      · simp only [total_cons, ih]
        omega

/-- Counting one more raises what is shown. -/
theorem shown_raise (label : String) (values : Labelled Nat) :
    values.shown.count label 1 = (values.raise label).shown := by
  unfold raise count
  induction values with
  | nil => exact congrArg (fun n => [(label, n)]) (Counter.add_shown 0)
  | cons entry rest ih =>
    rcases entry with ⟨l, n⟩
    simp only [shown, List.map_cons, adjust] at ih ⊢
    split
    · rw [List.map_cons, Counter.add_shown]
    · split
      · rw [List.map_cons, List.map_cons]
        exact congrArg (fun n => (label, n) :: _) (Counter.add_shown 0)
      · rw [List.map_cons, ih]

-- As long as no counter has stopped, a family shows exact numbers.
theorem shown_eq {values : Labelled Nat} (small : total values ≤ Counter.limit) :
    values.shown = values := by
  induction values with
  | nil => rfl
  | cons entry rest ih =>
    rcases entry with ⟨l, n⟩
    simp only [total_cons] at small
    rw [shown, List.map_cons, Counter.shown_eq (by omega)]
    exact congrArg (_ :: ·) (ih (by omega))

end Labelled

end TxRelay
