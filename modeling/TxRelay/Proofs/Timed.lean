import TxRelay.Clock

/-!
# Runs Up to an Instant

A machine on the clock is run up to an instant: it takes the steps that are due by
then, one after another. `Timed` says what such steps and such a run are like. How far
the machine is run then makes no difference to what it does, only to how much of it is
done. So it is enough to know the end of a run: the machine is over from the instant on
that its clock shows there, and not before.

## Main definitions

* `Timed`: A machine whose steps fall on instants.

## Theorems

* `Timed.run_run`: A run up to an instant is the beginning of a longer one.
* `Timed.of_end`: What is known of a run when its end is known.
-/

namespace TxRelay

/-- A machine whose steps fall on instants, with a clock, and its run up to a limit. -/
structure Timed {α : Type} (step : Nat → α → Option α) (clock : α → Nat)
    (run : Nat → α → α) : Prop where
  /-- A step falls on an instant, moves the clock there, and is taken by whoever runs up
      to it. -/
  instant : ∀ {limit a b}, step limit a = some b →
    ∃ i, i ≤ limit ∧ clock b = max (clock a) i ∧ ∀ later, i ≤ later → step later a = some b
  /-- Without a step a run stays where it is. -/
  rest : ∀ {limit a}, step limit a = none → run limit a = a
  /-- A run takes its first step and goes on from there. -/
  next : ∀ {limit a b}, step limit a = some b → run limit a = run limit b
  /-- Where a run ends, no step is left. -/
  stops : ∀ limit a, step limit (run limit a) = none
  /-- What every step keeps, a run keeps. -/
  induct : ∀ {limit} {P : α → Prop}, (∀ a b, P a → step limit a = some b → P b) →
    ∀ a, P a → P (run limit a)

namespace Timed

variable {α : Type} {step : Nat → α → Option α} {clock : α → Nat} {run : Nat → α → α}
  {a b : α} {m n : Nat}

/-- To run up to an instant and then up to a later one is to run up to the later one. -/
theorem run_run (timed : Timed step clock run) (le : m ≤ n) (a : α) :
    run n (run m a) = run n a := by
  refine timed.induct (P := fun c => run n c = run n a) (fun c d same taken => ?_) a rfl
  rcases timed.instant taken with ⟨i, soon, -, again⟩
  exact (timed.next (again n (Nat.le_trans soon le))).symm.trans same

-- The clock does not run past the instant.
theorem clock_run_le (timed : Timed step clock run) (early : clock a ≤ n) :
    clock (run n a) ≤ n := by
  refine timed.induct (P := fun c => clock c ≤ n) (fun c d before taken => ?_) a early
  rcases timed.instant taken with ⟨i, soon, moved, -⟩
  exact moved ▸ Nat.max_le.mpr ⟨before, soon⟩

-- Nor does it run back.
theorem clock_le_run (timed : Timed step clock run) (n : Nat) (a : α) :
    clock a ≤ clock (run n a) := by
  refine timed.induct (P := fun c => clock a ≤ clock c) (fun c d before taken => ?_) a
    (Nat.le_refl _)
  rcases timed.instant taken with ⟨i, -, moved, -⟩
  exact moved ▸ Nat.le_trans before (Nat.le_max_left _ _)

/-- A machine that is over in the end is so from the instant on that its clock shows
    there, and not before. -/
theorem of_end (timed : Timed step clock run) (ends : run n a = b)
    (still : ∀ limit, step limit b = none) (soon : clock b ≤ n) :
    (∀ limit, clock b ≤ limit → run limit a = b) ∧
      ∀ limit, clock a ≤ limit → limit < clock b → ¬∀ later, step later (run limit a) = none := by
  constructor
  · intro limit late
    rcases Nat.le_total n limit with le | le
    · rw [← timed.run_run le, ends, timed.rest (still limit)]
    · rw [← timed.run_run le] at ends
      rcases taken : step n (run limit a) with _ | c
      · exact (timed.rest taken).symm.trans ends
      · -- It would take another step, and that after the limit.
        rcases timed.instant taken with ⟨i, -, moved, again⟩
        have after : limit < i := Nat.not_le.mp fun within =>
          absurd ((timed.stops limit a).symm.trans (again limit within)) (by simp)
        have clocks : i ≤ clock b := by
          rw [← ends, timed.next taken]
          exact Nat.le_trans (moved ▸ Nat.le_max_right _ _) (timed.clock_le_run n c)
        omega
  · intro limit early before finished
    have same : run limit a = b := by
      rw [← ends, ← timed.run_run (Nat.le_trans (Nat.le_of_lt before) soon),
        timed.rest (finished n)]
    have clocks := timed.clock_run_le early
    rw [same] at clocks
    omega

end Timed

end TxRelay
