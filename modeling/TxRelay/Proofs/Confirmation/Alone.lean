import TxRelay.Proofs.Confirmation.Step
import TxRelay.Proofs.Onward

/-!
# A Wait Alone

A wait that nobody stops is over at its deadline, whatever the chains do. As with
a broadcast, what it does depends on the chains alone and comes in the order of
time.

## Main definitions

* `Confirmation.Watch.Runs`: What holds of a wait that has run on.

## Theorems

* `Confirmation.Wait.fire_congr`: A step depends on the chains alone.
* `Confirmation.Watch.runTo_of_lasting`, `runTo_of_run`: A step of a wait that is not
  stopped before.
* `Confirmation.Watch.runTo_over`: A wait is over at its deadline.
* `Confirmation.Watch.runs_runTo`: What is done on the way is in the order of time.
-/

namespace TxRelay

namespace Confirmation

variable {σ : Type} {lookup : Lookup σ}

/-- A step depends on the chains alone, and does the same to the record. -/
theorem Wait.fire_congr (lookup : Lookup σ) (w : Wait) {s t : Surroundings σ}
    (world : s.world = t.world) :
    (w.fire lookup s).1 = (w.fire lookup t).1 ∧
      (w.fire lookup s).2.world = (w.fire lookup t).2.world ∧
      ∃ a, (w.fire lookup s).2.acts = a ++ s.acts ∧ (w.fire lookup t).2.acts = a ++ t.acts := by
  rcases next : w.next with i | ⟨i, (_ | _) | f | text⟩ | i
  · -- Only a tick asks the chains.
    rw [fire_tick next, fire_tick next]
    unfold Surroundings.call
    rw [world]
    exact ⟨rfl, rfl, [_], rfl, rfl⟩
  · rw [fire_settled next, fire_settled next]
    exact ⟨rfl, world, [], rfl, rfl⟩
  · rw [fire_pending next, fire_pending next]
    exact ⟨rfl, world, [], rfl, rfl⟩
  · rw [fire_failure next, fire_failure next]
    exact ⟨rfl, world, [], rfl, rfl⟩
  · rw [fire_crash next, fire_crash next]
    exact ⟨rfl, world, [], rfl, rfl⟩
  · rw [fire_giveUp next, fire_giveUp next]
    exact ⟨rfl, world, [], rfl, rfl⟩

namespace Watch

variable {limit : Nat} {v : Watch σ} {w : Wait}

theorem runTo_of_over {verdict : Verdict} (ends : v.state = .inl verdict) :
    v.runTo lookup limit = v :=
  iterate_eq_of_none (by unfold step?; rw [ends])

theorem step?_of_lasting (under : v.state = .inr w) (running : ∀ s ∈ v.shutdown, w.due < s)
    (due : w.due ≤ limit) :
    v.step? lookup limit = some
      { v with
        now := max v.now w.due
        state := (w.fire lookup v.outside).1
        outside := (w.fire lookup v.outside).2 } := by
  have none_due : v.shutdown.filter (· ≤ w.due) = none := by
    refine Option.filter_eq_none_iff.mpr fun s stops => ?_
    simpa using running s stops
  unfold step?
  rw [under]
  dsimp only
  rw [none_due]
  exact if_pos due

/-- A step of a wait before the shutdown comes. -/
theorem runTo_of_lasting (under : v.state = .inr w) (running : ∀ s ∈ v.shutdown, w.due < s)
    (due : w.due ≤ limit) :
    v.runTo lookup limit = runTo lookup limit
      { v with
        now := max v.now w.due
        state := (w.fire lookup v.outside).1
        outside := (w.fire lookup v.outside).2 } :=
  iterate_eq_of_some (step?_of_lasting under running due)

/-- A step of a wait that nobody stops. -/
theorem runTo_of_run (under : v.state = .inr w) (alone : v.shutdown = none)
    (due : w.due ≤ limit) :
    v.runTo lookup limit = runTo lookup limit
      { v with
        now := max v.now w.due
        state := (w.fire lookup v.outside).1
        outside := (w.fire lookup v.outside).2 } :=
  runTo_of_lasting under (by simp [alone]) due

/-- What holds of a wait `v` that has run on from where the record was `old` and the
    next step was due at `d`, and that is over at `limit`. -/
structure Runs (old : List (Nat × Act)) (d limit : Nat) (v : Watch σ) : Prop where
  /-- Nobody stops it. -/
  alone : v.shutdown = none
  /-- What was done since. -/
  onward : Onward old d v.now v.outside.acts
  /-- What comes. -/
  next : match v.state with
    | .inl _ => d ≤ v.now
    | .inr w => v.now ≤ w.due ∧ d ≤ w.due ∧ w.Timely ∧ w.deadline = limit

theorem runs_step {old : List (Nat × Act)} {d : Nat} {u : Watch σ} (r : Runs old d limit v)
    (h : v.step? lookup limit = some u) : Runs old d limit u := by
  rcases state : v.state with verdict | w
  · unfold step? at h
    rw [state] at h
    exact absurd h (by simp only [reduceCtorEq, not_false_eq_true])
  · have next := r.next
    rw [state] at next
    rcases next with ⟨now, after, timely, deadline⟩
    have due : w.due ≤ limit := deadline ▸ w.due_le_deadline timely
    rw [step?_of_lasting state (by simp [r.alone]) due, Nat.max_eq_right now] at h
    rw [← Option.some.inj h]
    refine ⟨r.alone, ?_, ?_⟩
    · dsimp only
      rcases w.fire_acts lookup v.outside with same | more
      · rw [same]
        exact r.onward.wait now
      · rw [more]
        exact r.onward.act now after _
    · dsimp only
      rcases fired : (w.fire lookup v.outside).1 with verdict | next
      · exact after
      · have later := Wait.due_le_of_fire fired
        exact ⟨later, Nat.le_trans after later, Wait.timely_fire timely fired,
          (Wait.fire_frame fired).2.1.trans deadline⟩

/-- What is done on the way is in the order of time. -/
theorem runs_runTo {old : List (Nat × Act)} {d : Nat} (r : Runs old d limit v) :
    Runs old d limit (v.runTo lookup limit) :=
  iterate_induction (fun _ _ before h => runs_step before h) v r

/-- A wait is over at its deadline. -/
theorem runTo_over {old : List (Nat × Act)} {d : Nat} (r : Runs old d limit v) :
    ∃ verdict, (v.runTo lookup limit).state = .inl verdict := by
  have rest : step? lookup limit (v.runTo lookup limit) = none := iterate_at_rest v
  have runs : Runs old d limit (v.runTo lookup limit) := runs_runTo r
  rcases state : (v.runTo lookup limit).state with verdict | w
  · exact ⟨verdict, rfl⟩
  · have next := runs.next
    rw [state] at next
    have due : w.due ≤ limit := next.2.2.2 ▸ w.due_le_deadline next.2.2.1
    rw [step?_of_lasting state (by simp [runs.alone]) due] at rest
    exact absurd rest (by simp only [reduceCtorEq, not_false_eq_true])

-- A wait that begins, and that nobody stops.
theorem begin_runs (plan : Plan) (positive : 0 < plan.interval) (now : Nat) (tx : Submitted)
    (o : Surroundings σ) :
    Runs o.acts now (now + plan.limit) (begin plan now none tx o) := by
  unfold begin
  rw [dif_pos positive]
  refine ⟨rfl, Onward.refl _ _ _, ?_⟩
  have due := Wait.due_begin plan positive now tx
  exact ⟨Nat.le_of_eq due.symm, Nat.le_of_eq due.symm, Wait.timely_begin plan positive now tx, rfl⟩

end Watch

end Confirmation

end TxRelay
