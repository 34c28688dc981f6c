import TxRelay.Proofs.Broadcast.Step
import TxRelay.Proofs.Onward

/-!
# A Broadcast Alone

A broadcast ends whatever the chains do, so it can be run to its end without an
instant to stop at. What it does depends on the chains and on nothing else of its
surroundings, and it comes in the order of time.

## Main definitions

* `Broadcast.Solo.finish`: Runs a broadcast to its end.
* `Broadcast.Solo.Runs`: What holds of a broadcast that has run on.

## Theorems

* `Broadcast.Run.fire_congr`: A step depends on the chains alone.
* `Broadcast.Solo.finish_over`: The run to the end ends.
* `Broadcast.Solo.finish_eq_runTo`: A broadcast that is over by an instant was run
  to its end.
* `Broadcast.Solo.runs_finish`: What is done on the way is in the order of time.
-/

namespace TxRelay

namespace Broadcast

variable {σ : Type} {send : Broadcaster σ}

/-- A step depends on the chains alone, and does the same to the record. -/
theorem Run.fire_congr (send : Broadcaster σ) (r : Run) {s t : Surroundings σ}
    (world : s.world = t.world) :
    (r.fire send s).1 = (r.fire send t).1 ∧
      (r.fire send s).2.world = (r.fire send t).2.world ∧
      ∃ a, (r.fire send s).2.acts = a ++ s.acts ∧ (r.fire send t).2.acts = a ++ t.acts := by
  unfold fire
  rcases r.phase with ⟨⟨instant, hash | f | text⟩ | _, deadline, left⟩ | ⟨resume, left⟩
  · dsimp only
    split
    · exact ⟨rfl, world, [], rfl, rfl⟩
    · exact ⟨rfl, world, [], rfl, rfl⟩
  · dsimp only
    split
    · exact ⟨rfl, world, [], rfl, rfl⟩
    · exact ⟨rfl, world, [], rfl, rfl⟩
  · dsimp only
    split
    · exact ⟨rfl, world, [], rfl, rfl⟩
    · exact ⟨rfl, world, [], rfl, rfl⟩
  · exact ⟨rfl, world, [], rfl, rfl⟩
  · -- Only a new attempt asks the chains.
    unfold call Surroundings.call
    rw [world]
    exact ⟨rfl, rfl, [_], rfl, rfl⟩

namespace Solo

/-- The next thing that happens, whenever it is due. -/
def fire? (send : Broadcaster σ) (b : Solo σ) : Option (Solo σ) :=
  match b.state with
  | .inl _ => none
  | .inr r => some ⟨max b.now r.due, (r.fire send b.outside).1, (r.fire send b.outside).2⟩

theorem fire?_falls (send : Broadcaster σ) (b c : Solo σ) (h : fire? send b = some c) :
    c.backlog < b.backlog := by
  refine step?_falls send (match b.state with | .inl _ => 0 | .inr r => r.due) b c ?_
  unfold fire? at h
  unfold step?
  rcases state : b.state with outcome | r
  · rw [state] at h
    exact absurd h (by simp only [reduceCtorEq, not_false_eq_true])
  · rw [state] at h
    dsimp only at h ⊢
    rw [if_pos (Nat.le_refl r.due)]
    exact h

/-- Runs a broadcast to its end. -/
def finish (send : Broadcaster σ) (b : Solo σ) : Solo σ :=
  iterate (fire? send) backlog (fire?_falls send) b

theorem finish_of_over {b : Solo σ} {outcome : Outcome Submitted} (ends : b.state = .inl outcome) :
    b.finish send = b :=
  iterate_eq_of_none (by unfold fire?; rw [ends])

theorem finish_of_run {b : Solo σ} {r : Run} (under : b.state = .inr r) :
    b.finish send =
      finish send ⟨max b.now r.due, (r.fire send b.outside).1, (r.fire send b.outside).2⟩ :=
  iterate_eq_of_some (by unfold fire?; rw [under])

/-- The run to the end ends. -/
theorem finish_over (send : Broadcaster σ) (b : Solo σ) :
    ∃ outcome, (b.finish send).state = .inl outcome := by
  have rest : fire? send (b.finish send) = none := iterate_at_rest b
  unfold fire? at rest
  rcases state : (b.finish send).state with outcome | r
  · exact ⟨outcome, rfl⟩
  · rw [state] at rest
    exact absurd rest (by simp only [reduceCtorEq, not_false_eq_true])

/-- What holds of a broadcast `c` that has run on from where the record was `old`
    and the next step was due at `d`: what was done since is in the order of time,
    and so is what comes. -/
structure Runs (old : List (Nat × Act)) (d : Nat) (c : Solo σ) : Prop where
  /-- What was done since. -/
  onward : Onward old d c.now c.outside.acts
  /-- What comes. -/
  next : match c.state with
    | .inl _ => d ≤ c.now
    | .inr r => c.now ≤ r.due ∧ d ≤ r.due

theorem runs_fire {old : List (Nat × Act)} {d : Nat} {b c : Solo σ} (o : Runs old d b)
    (h : fire? send b = some c) : Runs old d c := by
  unfold fire? at h
  rcases state : b.state with outcome | r
  · rw [state] at h
    exact absurd h (by simp only [reduceCtorEq, not_false_eq_true])
  · rw [state] at h
    have next := o.next
    rw [state] at next
    dsimp only at h next
    rw [Nat.max_eq_right next.1] at h
    rw [← Option.some.inj h]
    refine ⟨?_, ?_⟩
    · rcases r.fire_acts send b.outside with same | more
      · dsimp only
        rw [same]
        exact o.onward.wait next.1
      · dsimp only
        rw [more]
        exact o.onward.act next.1 next.2 _
    · rcases fired : (r.fire send b.outside).1 with outcome | v
      · exact next.2
      · have later := Run.due_le_of_fire fired
        exact ⟨later, Nat.le_trans next.2 later⟩

/-- What is done on the way to the end is in the order of time. -/
theorem runs_finish {old : List (Nat × Act)} {d : Nat} {b : Solo σ} (o : Runs old d b) :
    Runs old d (b.finish send) :=
  iterate_induction (fun _ _ before h => runs_fire before h) b o

theorem now_le_finish (send : Broadcaster σ) (b : Solo σ) : b.now ≤ (b.finish send).now := by
  refine iterate_induction (P := fun c : Solo σ => b.now ≤ c.now) ?_ b (Nat.le_refl b.now)
  intro c e before h
  unfold fire? at h
  rcases state : c.state with outcome | r
  · rw [state] at h
    exact absurd h (by simp only [reduceCtorEq, not_false_eq_true])
  · rw [state] at h
    rw [← Option.some.inj h]
    exact Nat.le_trans before (Nat.le_max_left _ _)

/-- A broadcast that is over by an instant was run to its end. -/
theorem finish_eq_runTo {limit : Nat} {b : Solo σ} (soon : (b.finish send).now ≤ limit) :
    b.runTo send limit = b.finish send := by
  induction size : b.backlog using Nat.strongRecOn generalizing b with
  | ind size ih =>
    rcases state : b.state with outcome | r
    · rw [finish_of_over state]
      exact iterate_eq_of_none (by unfold step?; rw [state])
    · rw [finish_of_run state] at soon ⊢
      by_cases early : r.due ≤ limit
      · have taken : step? send limit b =
            some ⟨max b.now r.due, (r.fire send b.outside).1, (r.fire send b.outside).2⟩ := by
          unfold step?
          rw [state]
          exact if_pos early
        have fewer := step?_falls send limit b _ taken
        rw [← ih _ (size ▸ fewer) soon rfl]
        exact iterate_eq_of_some taken
      · -- A step past the instant leaves the clock past it.
        have later := now_le_finish send
          ⟨max b.now r.due, (r.fire send b.outside).1, (r.fire send b.outside).2⟩
        dsimp only at later
        omega

end Solo

end Broadcast

end TxRelay
