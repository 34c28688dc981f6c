import TxRelay.Confirmation

/-!
# Steps of a Wait

What a wait for confirmation does next, one equation for each thing that can
happen. The schedule of a wait is sound if it is not past its deadline; every
wait begins so and stays so, and then its steps come in the order of time and
it gives up at its deadline and at no other instant.

## Main definitions

* `Confirmation.Wait.Timely`: The last step was not past the deadline.

## Theorems

* `Confirmation.Wait.fire_acts`: What a step does to the chains.
* `Confirmation.Wait.timely_fire`: A wait stays timely.
* `Confirmation.Wait.due_le_of_fire`: Steps come in the order of time.
* `Confirmation.Wait.next_giveUp`: A wait gives up at its deadline.
-/

namespace TxRelay

namespace Confirmation.Wait

variable {σ : Type} {lookup : Lookup σ} {w v : Wait} {s : Surroundings σ} {i : Nat}

-- A tick begins a lookup.
theorem fire_tick (h : w.next = .tick i) :
    w.fire lookup s =
      (.inr { w with
        tick := nextTick w.interval w.tick i
        since := i
        phase := .asking
          (s.call i (.lookup w.tx.chain w.tx.hash) (lookup w.tx.chain w.tx.hash)).1 },
        (s.call i (.lookup w.tx.chain w.tx.hash) (lookup w.tx.chain w.tx.hash)).2) := by
  simp only [fire, h]

-- A lookup that finds the transaction no longer pending ends the wait.
theorem fire_settled (h : w.next = .answer i (.value false)) :
    w.fire lookup s = (.inl .settled, s) := by
  simp only [fire, h]

-- A lookup that finds the transaction pending changes nothing.
theorem fire_pending (h : w.next = .answer i (.value true)) :
    w.fire lookup s = (.inr { w with since := i, phase := .resting }, s) := by
  simp only [fire, h]

-- A lookup that fails is counted.
theorem fire_failure {f : Failure} (h : w.next = .answer i (.failure f)) :
    w.fire lookup s =
      (.inr { w with since := i, phase := .resting },
        s.measure fun m => m.recordPollError w.tx.chain) := by
  simp only [fire, h]

-- A lookup can take the task down.
theorem fire_crash {text : String} (h : w.next = .answer i (.crash text)) :
    w.fire lookup s = (.inl (.crashed text), s) := by
  simp only [fire, h]

-- At its limit a wait gives up.
theorem fire_giveUp (h : w.next = .giveUp i) : w.fire lookup s = (.inl .missing, s) := by
  simp only [fire, h]

/-- A step of a wait begins at most one lookup, at the instant of the step. -/
theorem fire_acts (lookup : Lookup σ) (w : Wait) (s : Surroundings σ) :
    (w.fire lookup s).2.acts = s.acts ∨
      (w.fire lookup s).2.acts = (w.due, .lookup w.tx.chain w.tx.hash) :: s.acts := by
  rcases h : w.next with i | ⟨i, (_ | _) | f | text⟩ | i
  · rw [fire_tick h, show w.due = i from congrArg Next.instant h]
    exact Or.inr rfl
  · rw [fire_settled h]
    exact Or.inl rfl
  · rw [fire_pending h]
    exact Or.inl rfl
  · rw [fire_failure h]
    exact Or.inl rfl
  · rw [fire_crash h]
    exact Or.inl rfl
  · rw [fire_giveUp h]
    exact Or.inl rfl

/-- The last step of a wait was not past its deadline. -/
def Timely (w : Wait) : Prop :=
  w.since ≤ w.deadline

-- A wait begins in time.
theorem timely_begin (plan : Plan) (positive : 0 < plan.interval) (now : Nat) (tx : Submitted) :
    (begin plan positive now tx).Timely :=
  Nat.le_add_right now plan.limit

-- The first tick of a wait comes at once.
theorem due_begin (plan : Plan) (positive : 0 < plan.interval) (now : Nat)
    (tx : Submitted) : (begin plan positive now tx).due = now := by
  unfold due next begin
  dsimp only
  rw [Nat.max_self, if_pos (Nat.le_add_right now plan.limit)]
  rfl

-- A step is not before the last one.
theorem since_le_due (w : Wait) : w.since ≤ w.due := by
  -- Whatever comes next is put off to the last step.
  unfold due next
  split
  · dsimp only
    split
    · exact Nat.le_max_right w.tick w.since
    · exact Nat.le_max_right w.deadline w.since
  · split
    · exact Nat.le_max_right _ w.since
    · exact Nat.le_max_right w.deadline w.since
  · exact Nat.le_max_right w.deadline w.since

-- While it is timely, a wait has its next step not past the deadline.
theorem due_le_deadline (timely : w.Timely) : w.due ≤ w.deadline := by
  unfold Timely at timely
  unfold due next
  split
  · dsimp only
    split
    · assumption
    · exact Nat.max_le.mpr ⟨Nat.le_refl w.deadline, timely⟩
  · split
    · rename_i early
      exact Nat.max_le.mpr ⟨early, timely⟩
    · exact Nat.max_le.mpr ⟨Nat.le_refl w.deadline, timely⟩
  · exact Nat.max_le.mpr ⟨Nat.le_refl w.deadline, timely⟩

-- A step that does not end the wait changes its schedule and nothing else, and
-- takes place when it is due.
theorem fire_frame (h : (w.fire lookup s).1 = .inr v) :
    v.tx = w.tx ∧ v.deadline = w.deadline ∧ v.since = w.due := by
  rcases next : w.next with i | ⟨i, (_ | _) | f | text⟩ | i
  · rw [fire_tick next] at h
    rw [← Sum.inr.inj h, show w.due = i from congrArg Next.instant next]
    exact ⟨rfl, rfl, rfl⟩
  · rw [fire_settled next] at h
    exact absurd h (by simp only [reduceCtorEq, not_false_eq_true])
  · rw [fire_pending next] at h
    rw [← Sum.inr.inj h, show w.due = i from congrArg Next.instant next]
    exact ⟨rfl, rfl, rfl⟩
  · rw [fire_failure next] at h
    rw [← Sum.inr.inj h, show w.due = i from congrArg Next.instant next]
    exact ⟨rfl, rfl, rfl⟩
  · rw [fire_crash next] at h
    exact absurd h (by simp only [reduceCtorEq, not_false_eq_true])
  · rw [fire_giveUp next] at h
    exact absurd h (by simp only [reduceCtorEq, not_false_eq_true])

/-- A wait stays timely. -/
theorem timely_fire (timely : w.Timely) (h : (w.fire lookup s).1 = .inr v) : v.Timely := by
  rcases fire_frame h with ⟨-, deadline, since⟩
  unfold Timely
  rw [deadline, since]
  exact due_le_deadline timely

/-- Steps come in the order of time. -/
theorem due_le_of_fire (h : (w.fire lookup s).1 = .inr v) : w.due ≤ v.due := by
  rw [← (fire_frame h).2.2]
  exact since_le_due v

/-- A timely wait gives up at its deadline. -/
theorem next_giveUp (timely : w.Timely) (h : w.next = .giveUp i) : i = w.deadline := by
  have late : i = max w.deadline w.since := by
    unfold next at h
    split at h
    · dsimp only at h
      split at h
      · exact absurd h (by simp only [reduceCtorEq, not_false_eq_true])
      · exact (Next.giveUp.inj h).symm
    · split at h
      · exact absurd h (by simp only [reduceCtorEq, not_false_eq_true])
      · exact (Next.giveUp.inj h).symm
    · exact (Next.giveUp.inj h).symm
  -- The deadline was not put off.
  rw [late]
  exact Nat.max_eq_left timely

end Confirmation.Wait

end TxRelay
