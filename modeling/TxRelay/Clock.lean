import TxRelay.Failure

/-!
# The Clock

Instants and spans of time are natural numbers of milliseconds. An operation on
a chain, once called, either answers after some delay or never does, and what
it answers is a value, a failure, or a crash that takes the calling task down
with it.

Machines that wait on the clock are written as one partial step: the next
thing that happens, if anything happens at all. `iterate` runs such a step
until it has nothing left to do. It needs a rank that falls with every step,
so it always ends, and it ends where no step is left — which is what the
statements about a machine at rest are made from.

## Main definitions

* `Outcome`, `Reply`, `Answer`: How an operation ends, when it was called with
  what delay, and at what instant.
* `iterate`: Runs a partial step until nothing is left to do.

## Theorems

* `iterate_eq_of_none`, `iterate_eq_of_some`: One step of a run.
* `iterate_at_rest`: Where a run ends, no step is left.
* `iterate_induction`: What every step keeps, a run keeps.
-/

namespace TxRelay

/-- How an operation ends. -/
inductive Outcome (α : Type) where
  /-- With its value. -/
  | value (a : α)
  /-- With a failure that the caller can handle. -/
  | failure (f : Failure)
  /-- By taking the calling task down. -/
  | crash (text : String)
  deriving DecidableEq

/-- What a call of an operation will do. -/
inductive Reply (α : Type) where
  /-- End after this delay. -/
  | after (delay : Nat) (outcome : Outcome α)
  /-- Not end at all. -/
  | never
  deriving DecidableEq

/-- A call that is under way. -/
inductive Answer (α : Type) where
  /-- It ends at this instant. -/
  | arriving (instant : Nat) (outcome : Outcome α)
  /-- It does not end. -/
  | never
  deriving DecidableEq

namespace Reply

/-- A call made at an instant. -/
def calledAt {α : Type} (now : Nat) : Reply α → Answer α
  | .after delay outcome => .arriving (now + delay) outcome
  | .never => .never

end Reply

/-- Runs a partial step until it has nothing left to do. The rank falls with
    every step, so the run ends. -/
def iterate {α β : Type} [WellFoundedRelation β] (step : α → Option α) (rank : α → β)
    (falls : ∀ a b, step a = some b → WellFoundedRelation.rel (rank b) (rank a)) (a : α) : α :=
  match _h : step a with
  | none => a
  | some b => iterate step rank falls b
termination_by rank a
decreasing_by exact falls a b _h

section Iterate

variable {α β : Type} [WellFoundedRelation β] {step : α → Option α} {rank : α → β}
  {falls : ∀ a b, step a = some b → WellFoundedRelation.rel (rank b) (rank a)}

/-- A run from a state at rest stays there. -/
theorem iterate_eq_of_none {a : α} (h : step a = none) : iterate step rank falls a = a := by
  rw [iterate]
  split
  · rfl
  · rename_i b hb
    exact absurd (h.symm.trans hb) (by simp only [reduceCtorEq, not_false_eq_true])

/-- A run takes its first step and goes on from there. -/
theorem iterate_eq_of_some {a b : α} (h : step a = some b) :
    iterate step rank falls a = iterate step rank falls b := by
  rw [iterate]
  split
  · rename_i hn
    exact absurd (hn.symm.trans h) (by simp only [reduceCtorEq, not_false_eq_true])
  · rename_i c hc
    rw [Option.some.inj (hc.symm.trans h)]

/-- Where a run ends, no step is left. -/
theorem iterate_at_rest (a : α) : step (iterate step rank falls a) = none := by
  fun_induction iterate step rank falls a with
  | case1 a h => exact h
  | case2 a b h ih => exact ih

/-- What every step keeps, a run keeps. -/
theorem iterate_induction {P : α → Prop} (keeps : ∀ a b, P a → step a = some b → P b)
    (a : α) (start : P a) : P (iterate step rank falls a) := by
  fun_induction iterate step rank falls a with
  | case1 a h => exact start
  | case2 a b h ih => exact ih (keeps a b start h)

end Iterate

end TxRelay
