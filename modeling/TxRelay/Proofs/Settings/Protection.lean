import TxRelay.Proofs.Broadcast.Alone
import TxRelay.Proofs.Queue.Touch
import TxRelay.Proofs.Settings.Rules

/-!
# What Accepted Settings Protect

Two rules are relied on far from where they are checked. The ticker that paces a
wait for confirmation crashes if its interval is zero, and takes the worker with
it; so a queue with accepted settings loses its worker to a crash only if an
operation that it called crashed. And a broadcast counts the attempts behind its
first one, so with accepted settings it makes as many as were asked for, at most,
and at least one.

## Main definitions

* `Queue.Caused`: Whatever crash took the worker down came from an operation.
* `Broadcast.Run.remaining`: The attempts that a broadcast may still make.
* `Broadcast.Tried`: What a broadcast has done so far.

## Theorems

* `Queue.Caused.kept`: Every step of a queue with a pace has its crashes caused.
* `Broadcast.Tried.fired`: Every step of a broadcast stays within its attempts.
* `Settings.accepted_iff_sound`: What is accepted, and what is known then.
-/

namespace TxRelay

namespace Queue

variable {σ : Type} {q : Setup σ} {s t : State σ} {h history : List (Nat × Happening)}

/-- Whatever crash took the worker down came from its send operation or from a
    lookup, and at that instant. -/
def Caused (history : List (Nat × Happening)) : Prop :=
  ∀ i text, (i, Happening.left (.crashed text)) ∈ history →
    ∃ n, (i, .returned n (.crash text)) ∈ history ∨
      ∃ tx made, (i, .heard n tx made (.crash text)) ∈ history

/-- Every step of a queue with a pace has its crashes caused. -/
theorem Caused.kept (paced : 0 < q.plan.interval) (step : Step q s h t) (c : Caused history) :
    Caused (h ++ history) := by
  intro i text mem
  rcases List.mem_append.mp mem with new | old
  · rcases step.left_cases new with ⟨-, -, lost | done | crashed⟩
    · unfold State.loss at lost
      split at lost <;> exact absurd lost (by simp)
    · exact absurd done (by simp)
    rcases crashed with ⟨n, k, d, o, other, same, flight, known⟩
    obtain rfl := Ending.crashed.inj same
    refine ⟨n, ?_⟩
    cases flight with
    | sendCrashed returns => exact Or.inl (List.mem_append_left _ (known _ rfl))
    | unpaced returns opened unpaced => exact absurd paced unpaced
    | lookupCrashed stage opened answer =>
      exact Or.inr ⟨_, _, List.mem_append_left _ (known _ rfl)⟩
  · rcases c i text old with ⟨n, returned | ⟨tx, made, heard⟩⟩
    · exact ⟨n, Or.inl (List.mem_append_right _ returned)⟩
    · exact ⟨n, Or.inr ⟨tx, made, List.mem_append_right _ heard⟩⟩

-- So does every run.
theorem Caused.play (paced : 0 < q.plan.interval) (world : σ) (moves : List Move) :
    Caused ((Chronicle.fresh world).play q moves).history :=
  Chronicle.step_induction q (P := fun c => Caused c.history)
    (fun _ _ _ step caused => caused.kept paced step) moves _
    fun _ _ mem => absurd mem List.not_mem_nil

end Queue

namespace Broadcast

variable {σ : Type} {send : Broadcaster σ}

namespace Run

variable {r v : Run} {s o : Surroundings σ}

/-- The attempts that a broadcast may still make. Each takes two of its steps. -/
def remaining (r : Run) : Nat := r.backlog / 2

-- A step makes none of the attempts that are left, or one of them.
theorem remaining_fire (fire : r.fire send s = (.inr v, o)) :
    v.chain = r.chain ∧ v.raw = r.raw ∧
      (o.acts = s.acts ∧ v.remaining ≤ r.remaining ∨
        ∃ i, o.acts = (i, .attempt r.chain r.raw) :: s.acts ∧ v.remaining + 1 ≤ r.remaining) := by
  have falls : v.backlog < r.backlog := backlog_fire send (congrArg Prod.fst fire)
  unfold remaining
  rcases fire_on fire with ⟨resume, left, rfl, rfl⟩ | ⟨resume, left, called⟩
  · exact ⟨rfl, rfl, Or.inl ⟨rfl, Nat.div_le_div_right (Nat.le_of_lt falls)⟩⟩
  · obtain ⟨rfl, rfl⟩ := Prod.mk.inj called
    refine ⟨rfl, rfl, Or.inr ⟨resume, rfl, ?_⟩⟩
    -- A call is one step short of two, so the step before it was the other one.
    simp only [backlog] at falls ⊢
    omega

end Run

namespace Solo

/-- The attempts that a broadcast may still make. -/
def remaining (b : Solo σ) : Nat :=
  match b.state with
  | .inl _ => 0
  | .inr r => r.remaining

/-- A broadcast of a transaction has made some of `n` attempts, at least one and
    nothing else, and has not more than the others left. -/
structure Tried (n : Nat) (chain : ChainId) (raw : Bytes) (old new : List (Nat × Act))
    (b : Solo σ) : Prop where
  /-- What was done since. -/
  acts : b.outside.acts = new ++ old
  /-- These were attempts. -/
  attempts : ∀ a ∈ new, a.2 = .attempt chain raw
  /-- There was one. -/
  some : 1 ≤ new.length
  /-- There are not too many. -/
  within : new.length + b.remaining ≤ n
  /-- Further attempts are for the same transaction. -/
  goal : ∀ r, b.state = .inr r → r.chain = chain ∧ r.raw = raw

namespace Tried

variable {n : Nat} {chain : ChainId} {raw : Bytes} {old new : List (Nat × Act)} {b : Solo σ}

-- The first attempt is made at once.
theorem begin (send : Broadcaster σ) (policy : Policy) (asked : 1 ≤ policy.attempts) (now : Nat)
    (chain : ChainId) (raw : Bytes) (o : Surroundings σ) :
    Tried policy.attempts chain raw o.acts [(now, .attempt chain raw)]
      (Solo.begin send policy now chain raw o) := by
  refine ⟨rfl, fun a mem => ?_, Nat.le_refl 1, ?_, fun r under => ?_⟩
  · rw [List.mem_singleton.mp mem]
  · show 1 + (2 * (policy.attempts - 1) + 1) / 2 ≤ policy.attempts
    omega
  · rw [← Sum.inr.inj under]
    exact ⟨rfl, rfl⟩

/-- Every step of a broadcast stays within its attempts. -/
theorem fired {r : Run} (t : Tried n chain raw old new b) (under : b.state = .inr r) (now : Nat) :
    ∃ more, Tried n chain raw old (more ++ new)
      ⟨now, (r.fire send b.outside).1, (r.fire send b.outside).2⟩ := by
  have within := t.within
  rw [remaining, under] at within
  dsimp only at within
  rcases next : r.fire send b.outside with ⟨outcome | v, o⟩
  · -- A broadcast that ends asks nothing of the chains any more.
    have same : o = b.outside := by
      rw [← r.fire_over (congrArg Prod.fst next), next]
    refine ⟨[], same ▸ t.acts, t.attempts, t.some, ?_, fun r ends => absurd ends (by simp)⟩
    exact Nat.le_trans (Nat.le_add_right _ _) within
  · rcases Run.remaining_fire next with ⟨sameChain, sameRaw, calm | ⟨i, act, fewer⟩⟩
    all_goals
      rcases t.goal r under with ⟨rfl, rfl⟩
      have goal : ∀ w, (Sum.inr v : Outcome Submitted ⊕ Run) = .inr w →
          w.chain = r.chain ∧ w.raw = r.raw :=
        fun w same => Sum.inr.inj same ▸ ⟨sameChain, sameRaw⟩
    · exact ⟨[], calm.1.trans t.acts, t.attempts, t.some,
        Nat.le_trans (Nat.add_le_add_left calm.2 _) within, goal⟩
    · refine ⟨[(i, .attempt r.chain r.raw)], ?_, ?_, Nat.le_add_left 1 new.length, ?_, goal⟩
      · rw [act, t.acts]
        rfl
      · exact List.forall_mem_cons.mpr ⟨rfl, t.attempts⟩
      · show new.length + 1 + v.remaining ≤ n
        omega

-- A broadcast that runs on stays within its attempts.
theorem runTo (send : Broadcaster σ) (t : Tried n chain raw old new b) (limit : Nat) :
    ∃ new, Tried n chain raw old new (b.runTo send limit) := by
  refine iterate_induction (P := fun c => ∃ new, Tried n chain raw old new c) ?_ b ⟨new, t⟩
  rintro c d ⟨new, t⟩ step
  unfold step? at step
  rcases state : c.state with outcome | r
  · rw [state] at step
    exact absurd step (by simp)
  · rw [state] at step
    dsimp only at step
    split at step
    · rw [← Option.some.inj step]
      rcases t.fired state (max c.now r.due) with ⟨more, kept⟩
      exact ⟨more ++ new, kept⟩
    · exact absurd step (by simp)

end Tried

end Solo

end Broadcast

namespace Settings

/-- Validation is exact and protects what runs behind it. A text is accepted if it
    can be read and is sound; chains that are not used and the order of those that
    are make no difference. With settings that were accepted the worker of a queue
    is taken down by no crash but one of an operation that it called, and a
    broadcast ends, makes an attempt, and makes no more than were asked for. -/
theorem accepted_iff_sound (environment : String → Option String) (source : String) :
    (∀ s, ofText environment source = .ok s ↔
      parse (substitute environment source) = some s ∧ Sound s) ∧
    (∀ s t : Settings, s.queue = t.queue → s.sender = t.sender →
      (s.enabledChains = t.enabledChains → s.validate = t.validate) ∧
      (s.enabledChains.Perm t.enabledChains → (s.validate = .ok () ↔ t.validate = .ok ()))) ∧
    ∀ s, ofText environment source = .ok s →
      (∀ (σ : Type) (q : Queue.Setup σ) (world : σ) (moves : List Queue.Move),
        q.plan = s.queue.plan →
          Queue.Caused ((Queue.Chronicle.fresh world).play q moves).history) ∧
      ∀ (σ : Type) (send : Broadcaster σ) (now : Nat) (chain : ChainId) (raw : Bytes)
        (o : Surroundings σ),
        let b := Broadcast.Solo.begin send s.sender.policy now chain raw o
        (∀ limit, ∃ new, (b.runTo send limit).outside.acts = new ++ o.acts ∧
          (∀ a ∈ new, a.2 = .attempt chain raw) ∧ 1 ≤ new.length ∧
            new.length ≤ s.sender.attempts) ∧
        ∃ outcome limit, (b.runTo send limit).state = .inl outcome := by
  refine ⟨ofText_eq_ok environment source,
    fun _ _ queue sender => ⟨validate_congr queue sender, validate_of_perm queue sender⟩,
    fun s accepted => ?_⟩
  have sound := ((ofText_eq_ok environment source s).mp accepted).2
  refine ⟨fun σ q world moves plan => ?_, fun σ send now chain raw o => ⟨fun limit => ?_, ?_⟩⟩
  · have paced : 0 < q.plan.interval := by
      rw [plan]
      exact sound.poll
    exact .play paced world moves
  · have start := Broadcast.Solo.Tried.begin send s.sender.policy sound.attempts now chain raw o
    rcases start.runTo send limit with ⟨new, tried⟩
    exact ⟨new, tried.acts, tried.attempts, tried.some,
      Nat.le_trans (Nat.le_add_right _ _) tried.within⟩
  · rcases (Broadcast.Solo.begin send s.sender.policy now chain raw o).finish_over send with
      ⟨outcome, ends⟩
    refine ⟨outcome, ((Broadcast.Solo.begin send s.sender.policy now chain raw o).finish send).now,
      ?_⟩
    rw [Broadcast.Solo.finish_eq_runTo (Nat.le_refl _)]
    exact ends

end Settings

end TxRelay
