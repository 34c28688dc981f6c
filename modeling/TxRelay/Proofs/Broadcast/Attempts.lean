import TxRelay.Proofs.Broadcast.Alone
import TxRelay.Proofs.Replies
import TxRelay.Proofs.Timed

/-!
# The Attempts of a Broadcast

What becomes of a broadcast follows from the replies to its attempts, taken one
after another. A reply in time may settle it: with a transaction, because the node
gave its hash or says that it has it, or with a failure that another attempt would
not mend. `Settles` lists these replies, and `Fails` the others, after which it
tries again. Each reply is of one kind only. So a broadcast ends with the first
reply that settles it, and if none of those it can wait for does, with the failure
of the last.

When an attempt is made follows from the replies before it: each takes as long as
its reply, or as long as the broadcast is patient, and a pause follows.

The run is followed from one attempt to the next. `Solo.attempted` is a broadcast
that has just made an attempt, and one lemma each says how it goes on if the reply
settles it, if it fails and another attempt is left, and if it was the last.

## Main definitions

* `Broadcast.Policy.span`, `start`: How long attempts take, and when they are made.
* `Broadcast.Settles`, `Broadcast.Fails`: What a reply does to a broadcast.
* `Broadcast.EndsAt`: With which attempt a broadcast ends, and how.
* `Broadcast.Solo.attempted`: A broadcast that has just made an attempt.

## Theorems

* `Broadcast.settles_or_fails`, `Broadcast.Fails.not_settles`: A reply is of one
  kind.
* `Broadcast.EndsAt.unique`: Replies leave no choice.
* `Broadcast.Solo.finish_begin`: The run of a broadcast to its end.
* `Broadcast.Solo.timed`: A broadcast is a machine on the clock.
* `Broadcast.outcome_of_broadcast`: How and when a broadcast ends.
-/

namespace TxRelay

namespace Broadcast

variable {σ : Type}

namespace Policy

/-- How long an attempt takes that gets a reply. -/
def span (p : Policy) : Reply Hash → Nat
  | .after delay _ => min delay p.patience
  | .never => p.patience

/-- When attempts are made that get these replies, the first one now. -/
def start (p : Policy) (now : Nat) (reply : Nat → Reply Hash) : Nat → Nat
  | 0 => now
  | i + 1 => start p now reply i + p.span (reply i) + p.pause

end Policy

/-- A reply that settles a broadcast, and how the broadcast ends. -/
inductive Settles (p : Policy) (chain : ChainId) (raw : Bytes) :
    Reply Hash → Outcome Submitted → Prop where
  /-- The node gives the hash of the transaction. -/
  | sent {delay : Nat} {hash : Hash} (soon : delay ≤ p.patience) :
      Settles p chain raw (.after delay (.value hash)) (.value ⟨chain, hash⟩)
  /-- The node has the transaction, whose hash follows from its bytes. -/
  | known {delay : Nat} {message : String} (soon : delay ≤ p.patience)
      (meaning : Rejection.ofMessage message = .alreadyKnown) :
      Settles p chain raw (.after delay (.failure (.transaction message)))
        (.value ⟨chain, keccak256 raw⟩)
  /-- The nonce was used before. -/
  | nonce {delay : Nat} {message : String} (soon : delay ≤ p.patience)
      (meaning : Rejection.ofMessage message = .nonceTooLow) :
      Settles p chain raw (.after delay (.failure (.transaction message)))
        (.failure (.nonce chain message))
  /-- The account cannot pay. -/
  | funds {delay : Nat} {message : String} (soon : delay ≤ p.patience)
      (meaning : Rejection.ofMessage message = .insufficientFunds) :
      Settles p chain raw (.after delay (.failure (.transaction message)))
        (.failure (.insufficientFunds chain))
  /-- The attempt failed in a way that does not pass. -/
  | lost {delay : Nat} {f : Failure} (soon : delay ≤ p.patience)
      (other : ∀ message, f ≠ .transaction message) (lasting : f.retryable = false) :
      Settles p chain raw (.after delay (.failure f)) (.failure f)
  /-- The attempt took the task down. -/
  | crashed {delay : Nat} {text : String} (soon : delay ≤ p.patience) :
      Settles p chain raw (.after delay (.crash text)) (.crash text)

/-- A reply that settles nothing, and the failure of the attempt that got it. -/
inductive Fails (p : Policy) : Reply Hash → Failure → Prop where
  /-- The node rejects the transaction, for a reason that is not read. -/
  | rejected {delay : Nat} {message : String} (soon : delay ≤ p.patience)
      (meaning : Rejection.ofMessage message = .other) :
      Fails p (.after delay (.failure (.transaction message))) (.transaction message)
  /-- The attempt failed in a way that may pass. -/
  | passing {delay : Nat} {f : Failure} (soon : delay ≤ p.patience)
      (passes : f.retryable = true) : Fails p (.after delay (.failure f)) f
  /-- The reply comes too late. -/
  | late {delay : Nat} {outcome : Outcome Hash} (late : p.patience < delay) :
      Fails p (.after delay outcome) (.timeout "send transaction")
  /-- No reply comes. -/
  | silent : Fails p .never (.timeout "send transaction")

/-- A reply settles a broadcast or fails an attempt. -/
theorem settles_or_fails (p : Policy) (chain : ChainId) (raw : Bytes) (reply : Reply Hash) :
    (∃ outcome, Settles p chain raw reply outcome) ∨ ∃ f, Fails p reply f := by
  rcases reply with ⟨delay, outcome⟩ | _
  · rcases Nat.lt_or_ge p.patience delay with late | soon
    · exact Or.inr ⟨_, .late late⟩
    · rcases outcome with hash | f | text
      · exact Or.inl ⟨_, .sent soon⟩
      · by_cases rejection : ∃ message, f = .transaction message
        · rcases rejection with ⟨message, rfl⟩
          cases meaning : Rejection.ofMessage message with
          | alreadyKnown => exact Or.inl ⟨_, .known soon meaning⟩
          | nonceTooLow => exact Or.inl ⟨_, .nonce soon meaning⟩
          | insufficientFunds => exact Or.inl ⟨_, .funds soon meaning⟩
          | other => exact Or.inr ⟨_, .rejected soon meaning⟩
        · cases passes : f.retryable with
          | true => exact Or.inr ⟨_, .passing soon passes⟩
          | false => exact Or.inl ⟨_, .lost soon (not_exists.mp rejection) passes⟩
      · exact Or.inl ⟨_, .crashed soon⟩
  · exact Or.inr ⟨_, .silent⟩

namespace Run

variable {send : Broadcaster σ} {r : Run} {s : Surroundings σ} {reply : Reply Hash}
  {now left : Nat}

-- An attempt is decided by its reply or by its deadline, whichever comes first.
theorem due_of_calling
    (calling : r.phase = .calling (reply.calledAt now) (now + r.policy.patience) left) :
    r.due = now + r.policy.span reply := by
  unfold due
  rw [calling]
  rcases reply with ⟨delay, outcome⟩ | _
  · exact Nat.add_min_add_left now delay r.policy.patience
  · rfl

/-- A reply that settles a broadcast ends it. -/
theorem fire_of_settles {outcome : Outcome Submitted}
    (calling : r.phase = .calling (reply.calledAt now) (now + r.policy.patience) left)
    (settles : Settles r.policy r.chain r.raw reply outcome) :
    r.fire send s = (.inl outcome, s) := by
  unfold fire
  rw [calling]
  cases settles with
  | sent soon => simp [Reply.calledAt, soon, judge, decide]
  | known soon meaning => simp [Reply.calledAt, soon, judge, meaning, decide]
  | nonce soon meaning => simp [Reply.calledAt, soon, judge, meaning, decide]
  | funds soon meaning => simp [Reply.calledAt, soon, judge, meaning, decide]
  | @lost delay f soon other lasting =>
    cases f with
    | transaction message => exact absurd rfl (other message)
    | _ => simp_all [Reply.calledAt, judge, decide, Failure.retryable]
  | crashed soon => simp [Reply.calledAt, soon]

/-- After a reply that fails the attempt a broadcast tries again, if it may. -/
theorem fire_of_fails {f : Failure}
    (calling : r.phase = .calling (reply.calledAt now) (now + r.policy.patience) left)
    (fails : Fails r.policy reply f) :
    r.fire send s = (r.decide (now + r.policy.span reply) left (.again f), s) := by
  unfold fire
  rw [calling]
  cases fails with
  | rejected soon meaning => simp [Reply.calledAt, soon, judge, meaning, Policy.span]
  | @passing delay f soon passes =>
    cases f with
    | transaction message => exact absurd passes (by simp [Failure.retryable])
    | _ => simp_all [Reply.calledAt, judge, Policy.span, Failure.retryable]
  | late late => simp [Reply.calledAt, Nat.not_le.mpr late, Nat.min_eq_right (Nat.le_of_lt late),
      Policy.span, Broadcast.late]
  | silent => rfl

end Run

/-- A broadcast that waits for the reply to an attempt. -/
def Run.waiting (p : Policy) (chain : ChainId) (raw : Bytes) (reply : Reply Hash)
    (now left : Nat) : Run :=
  ⟨chain, raw, p, .calling (reply.calledAt now) (now + p.patience) left⟩

section Kinds

variable {p : Policy} {chain : ChainId} {raw : Bytes} {reply : Reply Hash}

-- Whatever is left, a reply that settles a broadcast ends it.
theorem Settles.ends {outcome : Outcome Submitted} (settles : Settles p chain raw reply outcome)
    (left : Nat) :
    ((Run.waiting p chain raw reply 0 left).fire (fun _ _ u => (.never, u)) (.fresh ())).1 =
      .inl outcome :=
  congrArg Prod.fst (Run.fire_of_settles rfl settles)

-- The program reacts to a reply in one way, so a reply is of one kind.
theorem Settles.unique {outcome other : Outcome Submitted}
    (settles : Settles p chain raw reply outcome) (again : Settles p chain raw reply other) :
    outcome = other :=
  Sum.inl.inj ((settles.ends 0).symm.trans (again.ends 0))

theorem Fails.not_settles {f : Failure} {outcome : Outcome Submitted} (fails : Fails p reply f) :
    ¬Settles p chain raw reply outcome := by
  intro settles
  -- With an attempt left, one kind of reply ends the broadcast and the other does not.
  have ended := settles.ends 1
  rw [Run.fire_of_fails rfl fails] at ended
  simp [Run.waiting, Run.decide] at ended

theorem Fails.unique {f g : Failure} (fails : Fails p reply f) (again : Fails p reply g) :
    f = g := by
  have ended {f} (fails : Fails p reply f) :
      ((Run.waiting p 0 [] reply 0 0).fire (fun _ _ u => (.never, u)) (.fresh ())).1 =
        .inl (.failure f) := by
    rw [Run.fire_of_fails rfl fails]
    rfl
  simpa using (ended fails).symm.trans (ended again)

-- A rejection in the node's own words is one that the node gave in time.
theorem Settles.ne_transaction {message : String} :
    ¬Settles p chain raw reply (.failure (.transaction message)) := by
  rintro ⟨⟩
  rename_i other lasting
  exact other message rfl

theorem Fails.of_transaction {message : String} (fails : Fails p reply (.transaction message)) :
    ∃ delay ≤ p.patience, reply = .after delay (.failure (.transaction message)) := by
  cases fails with
  | rejected soon => exact ⟨_, soon, rfl⟩
  | passing soon => exact ⟨_, soon, rfl⟩

end Kinds

/-- A broadcast that gets these replies ends with an attempt, counted from zero. -/
structure EndsAt (p : Policy) (chain : ChainId) (raw : Bytes) (reply : Nat → Reply Hash)
    (k : Nat) (outcome : Outcome Submitted) : Prop where
  /-- It is one of those that may be made. -/
  few : k < max 1 p.attempts
  /-- The attempts before it fail. -/
  before : ∀ i, i < k → ∃ f, Fails p (reply i) f
  /-- Its reply settles the broadcast, or it is the last one and fails as well. -/
  last : Settles p chain raw (reply k) outcome ∨
    k + 1 = max 1 p.attempts ∧ ∃ f, Fails p (reply k) f ∧ outcome = .failure f

-- Of two attempts that a broadcast could end with, the earlier one would not fail.
theorem EndsAt.le {p : Policy} {chain : ChainId} {raw : Bytes} {reply : Nat → Reply Hash}
    {k j : Nat} {outcome other : Outcome Submitted} (ends : EndsAt p chain raw reply k outcome)
    (again : EndsAt p chain raw reply j other) : j ≤ k := by
  refine Nat.not_lt.mp fun less => ?_
  rcases again.before k less with ⟨f, fails⟩
  have few := again.few
  rcases ends.last with settles | ⟨last, -⟩
  · exact fails.not_settles settles
  · omega

/-- The replies leave no choice. -/
theorem EndsAt.unique {p : Policy} {chain : ChainId} {raw : Bytes} {reply : Nat → Reply Hash}
    {k j : Nat} {outcome other : Outcome Submitted} (ends : EndsAt p chain raw reply k outcome)
    (again : EndsAt p chain raw reply j other) : j = k ∧ other = outcome := by
  obtain rfl : j = k := Nat.le_antisymm (ends.le again) (again.le ends)
  refine ⟨rfl, ?_⟩
  rcases ends.last with settles | ⟨-, f, fails, rfl⟩
  · rcases again.last with resettles | ⟨-, g, fails, -⟩
    · exact resettles.unique settles
    · exact absurd settles fails.not_settles
  · rcases again.last with settles | ⟨-, g, refails, rfl⟩
    · exact absurd settles fails.not_settles
    · rw [fails.unique refails]

namespace Solo

variable {send : Broadcaster σ} {p : Policy} {chain : ChainId} {raw : Bytes} {now : Nat}
  {o : Surroundings σ}

/-- A broadcast with its surroundings that has just made an attempt, counted from
    zero, with so many attempts behind it. -/
def attempted (send : Broadcaster σ) (p : Policy) (now : Nat) (chain : ChainId) (raw : Bytes)
    (o : Surroundings σ) (i left : Nat) : Solo σ :=
  let reply := Replies.reply (send chain raw) o.world
  let start := p.start now reply
  ⟨start i, .inr (.waiting p chain raw (reply i) (start i) left),
    o.called (send chain raw) (.attempt chain raw) start (i + 1)⟩

/-- A broadcast with its surroundings that is over, with the reply to an attempt. -/
def ended (send : Broadcaster σ) (p : Policy) (now : Nat) (chain : ChainId) (raw : Bytes)
    (o : Surroundings σ) (k : Nat) (outcome : Outcome Submitted) : Solo σ :=
  let reply := Replies.reply (send chain raw) o.world
  let start := p.start now reply
  ⟨start k + p.span (reply k), .inl outcome,
    o.called (send chain raw) (.attempt chain raw) start (k + 1)⟩

theorem begin_eq_attempted (send : Broadcaster σ) (p : Policy) (now : Nat) (chain : ChainId)
    (raw : Bytes) (o : Surroundings σ) :
    begin send p now chain raw o = attempted send p now chain raw o 0 (p.attempts - 1) := rfl

variable {i left : Nat}

-- The reply to an attempt settles the broadcast.
theorem finish_of_settles {outcome : Outcome Submitted}
    (settles : Settles p chain raw (Replies.reply (send chain raw) o.world i) outcome) :
    (attempted send p now chain raw o i left).finish send =
      ended send p now chain raw o i outcome := by
  rw [finish_of_run rfl]
  dsimp only [attempted]
  rw [Run.fire_of_settles rfl settles, Run.due_of_calling rfl, finish_of_over rfl,
    Nat.max_eq_right (Nat.le_add_right _ _)]
  rfl

-- The last attempt fails.
theorem finish_of_last {f : Failure}
    (fails : Fails p (Replies.reply (send chain raw) o.world i) f) :
    (attempted send p now chain raw o i 0).finish send =
      ended send p now chain raw o i (.failure f) := by
  rw [finish_of_run rfl]
  dsimp only [attempted]
  rw [Run.fire_of_fails rfl fails, Run.due_of_calling rfl, Run.decide, finish_of_over rfl,
    Nat.max_eq_right (Nat.le_add_right _ _)]
  rfl

-- An attempt fails, and after the pause another one is made.
theorem finish_of_fails {f : Failure}
    (fails : Fails p (Replies.reply (send chain raw) o.world i) f) :
    (attempted send p now chain raw o i (left + 1)).finish send =
      (attempted send p now chain raw o (i + 1) left).finish send := by
  have again := Surroundings.call_called (send chain raw) (.attempt chain raw)
    (p.start now (Replies.reply (send chain raw) o.world)) o (i + 1)
  rw [Policy.start] at again
  rw [finish_of_run rfl]
  dsimp only [attempted]
  rw [Run.fire_of_fails rfl fails, Run.due_of_calling rfl, Run.decide, finish_of_run rfl,
    Nat.max_eq_right (Nat.le_add_right _ _)]
  dsimp only [Run.due, Run.fire, Run.call, Run.waiting]
  rw [again, Nat.max_eq_right (Nat.le_add_right _ _)]
  rfl

/-- A broadcast runs on from an attempt to the one that it ends with. -/
theorem finish_attempted (send : Broadcaster σ) (p : Policy) (now : Nat) (chain : ChainId)
    (raw : Bytes) (o : Surroundings σ) (left : Nat) :
    ∀ i, i + left + 1 = max 1 p.attempts →
      (∀ j, j < i → ∃ f, Fails p (Replies.reply (send chain raw) o.world j) f) →
      ∃ k outcome, EndsAt p chain raw (Replies.reply (send chain raw) o.world) k outcome ∧
        (attempted send p now chain raw o i left).finish send =
          ended send p now chain raw o k outcome := by
  -- By induction on the attempts that are left.
  induction left with
  | zero =>
    intro i all before
    rcases settles_or_fails p chain raw (Replies.reply (send chain raw) o.world i) with
      ⟨outcome, settles⟩ | ⟨f, fails⟩
    · exact ⟨i, outcome, ⟨by omega, before, Or.inl settles⟩, finish_of_settles settles⟩
    · exact ⟨i, .failure f, ⟨by omega, before, Or.inr ⟨all, f, fails, rfl⟩⟩, finish_of_last fails⟩
  | succ left ih =>
    intro i all before
    rcases settles_or_fails p chain raw (Replies.reply (send chain raw) o.world i) with
      ⟨outcome, settles⟩ | ⟨f, fails⟩
    · exact ⟨i, outcome, ⟨by omega, before, Or.inl settles⟩, finish_of_settles settles⟩
    · rw [finish_of_fails fails]
      refine ih (i + 1) (by omega) fun j less => ?_
      rcases Nat.lt_succ_iff_lt_or_eq.mp less with earlier | rfl
      · exact before j earlier
      · exact ⟨f, fails⟩

/-- The run of a broadcast to its end. -/
theorem finish_begin (send : Broadcaster σ) (p : Policy) (now : Nat) (chain : ChainId)
    (raw : Bytes) (o : Surroundings σ) :
    ∃ k outcome, EndsAt p chain raw (Replies.reply (send chain raw) o.world) k outcome ∧
      (begin send p now chain raw o).finish send = ended send p now chain raw o k outcome :=
  finish_attempted send p now chain raw o (p.attempts - 1) 0 (by omega) fun _ none =>
    absurd none (Nat.not_lt_zero _)

-- A step falls on an instant, and is taken by whoever runs up to it.
theorem step?_inv {limit : Nat} {b c : Solo σ} (h : b.step? send limit = some c) :
    ∃ i, i ≤ limit ∧ c.now = max b.now i ∧ ∀ later, i ≤ later → b.step? send later = some c := by
  unfold step? at h
  unfold step?
  rcases state : b.state with outcome | r
  · rw [state] at h
    exact absurd h (by simp)
  · rw [state] at h
    dsimp only at h ⊢
    split at h
    · rename_i due
      exact ⟨r.due, due, congrArg Solo.now (Option.some.inj h).symm,
        fun later le => (if_pos le).trans h⟩
    · exact absurd h (by simp)

/-- A broadcast is a machine on the clock. -/
theorem timed (send : Broadcaster σ) : Timed (step? send) Solo.now (runTo send) where
  instant := step?_inv
  rest := iterate_eq_of_none
  next := iterate_eq_of_some
  stops _ := iterate_at_rest
  induct := iterate_induction

-- A broadcast that has a step left is under way.
theorem under_way {b : Solo σ} (more : ¬∀ limit, b.step? send limit = none) :
    ∃ r, b.state = .inr r := by
  rcases state : b.state with outcome | r
  · exact absurd (fun limit => by unfold step?; rw [state]) more
  · exact ⟨r, rfl⟩

end Solo

/-- How and when a broadcast ends, whatever the replies to its attempts are. There
    is one attempt that it can end with: the first whose reply settles it, or else
    the last one, whose failure it ends with. Attempts are made when the replies
    before them say, none after that one, and the broadcast is over when its reply
    comes or is no longer waited for, and not before. A rejection in the node's own
    words is only ever passed on. -/
theorem outcome_of_broadcast (send : Broadcaster σ) (policy : Policy) (now : Nat)
    (chain : ChainId) (raw : Bytes) (o : Surroundings σ) :
    let reply := Replies.reply (send chain raw) o.world
    let start := policy.start now reply
    ∃ k outcome, EndsAt policy chain raw reply k outcome ∧
      (∀ j other, EndsAt policy chain raw reply j other → j = k ∧ other = outcome) ∧
      (∀ limit, start k + policy.span (reply k) ≤ limit →
        (Solo.begin send policy now chain raw o).runTo send limit =
          ⟨start k + policy.span (reply k), .inl outcome,
            o.called (send chain raw) (.attempt chain raw) start (k + 1)⟩) ∧
      (∀ limit, now ≤ limit → limit < start k + policy.span (reply k) →
        ∃ r, ((Solo.begin send policy now chain raw o).runTo send limit).state = .inr r) ∧
      (∀ message, outcome = .failure (.transaction message) →
        ∃ delay ≤ policy.patience, reply k = .after delay (.failure (.transaction message))) := by
  intro reply start
  rcases Solo.finish_begin send policy now chain raw o with ⟨k, outcome, ends, finish⟩
  have clock : ((Solo.begin send policy now chain raw o).finish send).now =
      start k + policy.span (reply k) := congrArg Solo.now finish
  have run : (Solo.begin send policy now chain raw o).runTo send
      (start k + policy.span (reply k)) = Solo.ended send policy now chain raw o k outcome :=
    (Solo.finish_eq_runTo (Nat.le_of_eq clock)).trans finish
  have stands := (Solo.timed send).of_end run (fun _ => rfl) (Nat.le_refl _)
  refine ⟨k, outcome, ends, fun j other again => ends.unique again, stands.1, ?_, ?_⟩
  · intro limit early before
    exact Solo.under_way (stands.2 limit early before)
  · rintro message rfl
    rcases ends.last with settles | ⟨-, f, fails, same⟩
    · exact absurd settles Settles.ne_transaction
    · obtain rfl := Outcome.failure.inj same
      exact fails.of_transaction

end Broadcast

end TxRelay
