import TxRelay.Surroundings

/-!
# Records in the Order of Time

A record of acts grows at the front. A machine that runs on from an instant adds
acts in the order of time, none before that instant and none after its clock;
this is the shape in which its acts are compared with a schedule.

## Main definitions

* `Onward`: A record that grew in the order of time.

## Theorems

* `Onward.act`: An act is added.
* `Onward.trans`: One machine runs on from where another ended.
-/

namespace TxRelay

/-- The record `acts` grew from `old` in the order of time, between the instants
    `d` and `now`. -/
def Onward (old : List (Nat × Act)) (d now : Nat) (acts : List (Nat × Act)) : Prop :=
  ∃ a, acts = a ++ old ∧ a.Pairwise (fun x y => y.1 ≤ x.1) ∧ ∀ x ∈ a, d ≤ x.1 ∧ x.1 ≤ now

namespace Onward

variable {old acts more : List (Nat × Act)} {d now later : Nat}

theorem refl (acts : List (Nat × Act)) (d now : Nat) : Onward acts d now acts :=
  ⟨[], rfl, List.Pairwise.nil, fun _ mem => absurd mem List.not_mem_nil⟩

theorem wait (o : Onward old d now acts) (le : now ≤ later) : Onward old d later acts := by
  rcases o with ⟨a, record, sorted, times⟩
  exact ⟨a, record, sorted, fun x mem => ⟨(times x mem).1, Nat.le_trans (times x mem).2 le⟩⟩

/-- An act is added at a later instant. -/
theorem act (o : Onward old d now acts) (le : now ≤ later) (after : d ≤ later) (what : Act) :
    Onward old d later ((later, what) :: acts) := by
  rcases o with ⟨a, record, sorted, times⟩
  refine ⟨(later, what) :: a, ?_, ?_, ?_⟩
  · rw [record]
    rfl
  · rw [List.pairwise_cons]
    exact ⟨fun x mem => Nat.le_trans (times x mem).2 le, sorted⟩
  · intro x mem
    rcases List.mem_cons.mp mem with rfl | mem
    · exact ⟨after, Nat.le_refl _⟩
    · exact ⟨(times x mem).1, Nat.le_trans (times x mem).2 le⟩

/-- One machine runs on from where another ended. -/
theorem trans (o : Onward old d now acts) (p : Onward acts now later more) (after : d ≤ now)
    (le : now ≤ later) : Onward old d later more := by
  rcases o with ⟨a, record, sorted, times⟩
  rcases p with ⟨b, record', sorted', times'⟩
  refine ⟨b ++ a, ?_, ?_, ?_⟩
  · rw [record', record, List.append_assoc]
  · rw [List.pairwise_append]
    refine ⟨sorted', sorted, ?_⟩
    exact fun x new y old => Nat.le_trans (times y old).2 (times' x new).1
  · intro x mem
    rcases List.mem_append.mp mem with new | old
    · exact ⟨Nat.le_trans after (times' x new).1, (times' x new).2⟩
    · exact ⟨(times x old).1, Nat.le_trans (times x old).2 le⟩

end Onward

end TxRelay
