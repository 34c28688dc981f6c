import TxRelay.Broadcast

/-!
# Steps of a Broadcast

What a step of a broadcast does to the chains, and that steps come in the order
of time: a broadcast that goes on has its next step no earlier.

## Theorems

* `Broadcast.Run.fire_acts`: What a step does to the chains.
* `Broadcast.Run.due_le_of_fire`: Steps come in the order of time.
-/

namespace TxRelay

namespace Broadcast.Run

variable {σ : Type} {send : Broadcaster σ} {r v : Run} {s : Surroundings σ}

-- A broadcast begins with an attempt.
theorem acts_begin (send : Broadcaster σ) (policy : Policy) (now : Nat) (chain : ChainId)
    (raw : Bytes) (s : Surroundings σ) :
    (begin send policy now chain raw s).2.acts = (now, .attempt chain raw) :: s.acts := rfl

/-- A step of a broadcast makes at most one attempt, at the instant of the
    step. -/
theorem fire_acts (send : Broadcaster σ) (r : Run) (s : Surroundings σ) :
    (r.fire send s).2.acts = s.acts ∨
      (r.fire send s).2.acts = (r.due, .attempt r.chain r.raw) :: s.acts := by
  unfold fire
  split
  · split
    · split <;> exact Or.inl rfl
    · exact Or.inl rfl
  · exact Or.inl rfl
  · rename_i resume left phase
    refine Or.inr ?_
    simp only [call, Surroundings.call, due, phase]

-- A broadcast that ends asks nothing of the chains any more.
theorem fire_over {outcome : Outcome Submitted} (h : (r.fire send s).1 = .inl outcome) :
    (r.fire send s).2 = s := by
  unfold fire at h ⊢
  split at h
  · split
    · split <;> rfl
    · rfl
  · rfl
  · exact absurd h (by simp only [reduceCtorEq, not_false_eq_true])

-- An attempt is decided no earlier than it is made.
theorem le_due_call (send : Broadcaster σ) (now left : Nat) (r : Run) (s : Surroundings σ) :
    now ≤ (call send now left r s).1.due := by
  unfold call Surroundings.call due
  dsimp only
  rcases (send r.chain r.raw s.world).1 with ⟨delay, outcome⟩ | _
  · exact Nat.le_min.mpr ⟨Nat.le_add_right now delay, Nat.le_add_right now r.policy.patience⟩
  · exact Nat.le_add_right now r.policy.patience

-- The pause after a decision comes after it.
theorem le_due_decide {instant left : Nat} {d : Decision} (h : r.decide instant left d = .inr v) :
    instant ≤ v.due := by
  rcases d with hash | f | f
  · exact absurd h (by simp only [decide, reduceCtorEq, not_false_eq_true])
  · exact absurd h (by simp only [decide, reduceCtorEq, not_false_eq_true])
  · cases left with
    | zero => exact absurd h (by simp only [decide, reduceCtorEq, not_false_eq_true])
    | succ rest =>
      simp only [decide] at h
      rw [← Sum.inr.inj h]
      exact Nat.le_add_right instant r.policy.pause

/-- Steps come in the order of time. -/
theorem due_le_of_fire (h : (r.fire send s).1 = .inr v) : r.due ≤ v.due := by
  unfold fire at h
  unfold due
  split at h
  · -- An attempt is decided by its answer or by its deadline, whichever comes first.
    rename_i instant answer deadline left phase
    split at h
    · split at h
      · dsimp only at h
        exact Nat.le_trans (Nat.min_le_left instant deadline) (le_due_decide h)
      · dsimp only at h
        exact Nat.le_trans (Nat.min_le_left instant deadline) (le_due_decide h)
      · exact absurd h (by simp only [reduceCtorEq, not_false_eq_true])
    · dsimp only at h
      exact Nat.le_trans (Nat.min_le_right instant deadline) (le_due_decide h)
  · dsimp only at h
    exact le_due_decide h
  · rename_i resume left phase
    rw [← Sum.inr.inj h]
    exact le_due_call send resume left r s

end Broadcast.Run

end TxRelay
