import TxRelay.Submission
import TxRelay.Surroundings

/-!
# Waiting for Confirmation

After a transaction was broadcast, the chain is asked for it again and again
until it is no longer pending. A failed lookup says nothing and the wait goes
on. The wait is limited; when the limit is reached the transaction is missing.
A shutdown ends the wait at once, and counts as an end without fault.

Lookups are paced by a ticker. The first tick comes at once. The next one
comes an interval after the scheduled time of the last, unless that one was
taken more than five milliseconds late; then it comes an interval after the
time it was taken. Lookups never overlap, so a slow one makes ticks late.

Of two things that fall on the same instant, the ticker and the lookup come
before the limit, and a shutdown comes before both.

## Main definitions

* `Confirmation.nextTick`: The pace.
* `Confirmation.Wait`: A wait under way.
* `Confirmation.Wait.next`: What happens next in a wait.
* `Confirmation.Verdict.report`: What the end of a wait means.
* `Confirmation.Watch`: A wait with its surroundings, run on the clock.

## Theorems

* `Confirmation.lt_nextTick`: Ticks move forward.
* `Confirmation.Watch.step?_falls`: Up to any instant a wait has finitely many
  steps.
-/

namespace TxRelay

namespace Confirmation

/-- How late a tick may be taken without moving the ones after it. -/
def tolerance : Nat := 5

/-- The scheduled time of the tick after one that was scheduled at `tick` and
    taken at `taken`. -/
def nextTick (interval tick taken : Nat) : Nat :=
  if tick + tolerance < taken then taken + interval else tick + interval

/-- Ticks move forward. -/
theorem lt_nextTick {interval : Nat} (positive : 0 < interval) (tick taken : Nat) :
    tick < nextTick interval tick taken := by
  unfold nextTick
  split <;> omega

/-- The pace and the limit of a wait. -/
structure Plan where
  /-- The time between two lookups. -/
  interval : Nat
  /-- The longest wait. -/
  limit : Nat
  deriving DecidableEq

/-- The wording of the crash when the interval is zero. -/
def zeroIntervalText : String :=
  String.ofList [Char.ofNat 96] ++ "period" ++ String.ofList [Char.ofNat 96] ++ " must be non-zero."

/-- What a wait does between two of its steps. -/
inductive Phase where
  /-- It waits for the next tick. -/
  | resting
  /-- It waits for the answer to a lookup. -/
  | asking (answer : Answer Bool)

/-- A wait under way. -/
structure Wait where
  /-- The transaction. -/
  tx : Submitted
  /-- The time between two lookups. -/
  interval : Nat
  /-- It is not zero. -/
  interval_pos : 0 < interval
  /-- The instant at which the wait gives up. -/
  deadline : Nat
  /-- The scheduled time of the next tick. -/
  tick : Nat
  /-- The time of the last step. -/
  since : Nat
  /-- What the wait does. -/
  phase : Phase

/-- How a wait ends. -/
inductive Verdict where
  /-- A lookup found the transaction no longer pending. -/
  | settled
  /-- The limit was reached. -/
  | missing
  /-- A lookup took the task down. -/
  | crashed (text : String)
  deriving DecidableEq

/-- What the end of a wait means for its transaction. -/
def Verdict.report (tx : Submitted) : Verdict → Outcome Unit
  | .settled => .value ()
  | .missing => .failure (.transactionMissing tx.hash)
  | .crashed text => .crash text

namespace Wait

variable {σ : Type}

/-- The wait for a transaction that begins now. -/
def begin (plan : Plan) (positive : 0 < plan.interval) (now : Nat) (tx : Submitted) : Wait :=
  { tx := tx, interval := plan.interval, interval_pos := positive, deadline := now + plan.limit
    tick := now, since := now, phase := .resting }

/-- What happens next in a wait. -/
inductive Next where
  /-- The next tick is taken. -/
  | tick (instant : Nat)
  /-- The lookup is answered. -/
  | answer (instant : Nat) (outcome : Outcome Bool)
  /-- The limit is reached. -/
  | giveUp (instant : Nat)

/-- The instant of what happens next. -/
def Next.instant : Next → Nat
  | .tick i => i
  | .answer i _ => i
  | .giveUp i => i

/-- What happens next, if nobody stops the wait before. A tick or an answer
    at the deadline itself still counts. -/
def next (w : Wait) : Next :=
  match w.phase with
  | .resting =>
    -- A tick that came due while a lookup was under way is taken right after.
    let instant := max w.tick w.since
    if instant ≤ w.deadline then .tick instant else .giveUp (max w.deadline w.since)
  | .asking (.arriving instant outcome) =>
    if instant ≤ w.deadline then .answer (max instant w.since) outcome
    else .giveUp (max w.deadline w.since)
  | .asking .never => .giveUp (max w.deadline w.since)

/-- The instant of the next step. -/
def due (w : Wait) : Nat :=
  w.next.instant

/-- Takes what happens next. A tick begins a lookup; a failed lookup is
    counted. -/
def fire (lookup : Lookup σ) (w : Wait) (s : Surroundings σ) :
    (Verdict ⊕ Wait) × Surroundings σ :=
  match w.next with
  | .tick instant =>
    let r := s.call instant (.lookup w.tx.chain w.tx.hash) (lookup w.tx.chain w.tx.hash)
    (.inr { w with
      tick := nextTick w.interval w.tick instant
      since := instant
      phase := .asking r.1 }, r.2)
  | .answer _ (.value false) => (.inl .settled, s)
  | .answer instant (.value true) => (.inr { w with since := instant, phase := .resting }, s)
  | .answer instant (.failure _) =>
    (.inr { w with since := instant, phase := .resting },
      s.measure fun m => m.recordPollError w.tx.chain)
  | .answer _ (.crash text) => (.inl (.crashed text), s)
  | .giveUp _ => (.inl .missing, s)

/-- What a wait can still do up to an instant: two steps for each tick, one
    for the answer that is outstanding. -/
def backlog (limit : Nat) (w : Wait) : Nat :=
  2 * (limit + 1 - w.tick) + match w.phase with
    | .resting => 0
    | .asking _ => 1

/-- A step leaves less to do. -/
theorem backlog_fire (lookup : Lookup σ) (limit : Nat) (w v : Wait) (s : Surroundings σ)
    (soon : w.due ≤ limit) (h : (w.fire lookup s).1 = .inr v) : v.backlog limit < w.backlog limit := by
  unfold due at soon
  unfold fire at h
  rcases hphase : w.phase with _ | answer
  · -- A resting wait takes a tick, and the schedule moves on.
    by_cases hle : max w.tick w.since ≤ w.deadline
    · simp only [next, hphase, hle, if_true, Next.instant] at soon h
      rw [← Sum.inr.inj h]
      have forward := lt_nextTick w.interval_pos w.tick (max w.tick w.since)
      simp only [backlog, hphase]
      omega
    · simp only [next, hphase, hle, if_false] at h
      exact absurd h (by simp only [reduceCtorEq, not_false_eq_true])
  · -- A wait that asks goes back to rest, with the same schedule.
    have rested : v.tick = w.tick ∧ v.phase = .resting := by
      rcases answer with ⟨instant, outcome⟩ | _
      · simp only [next, hphase] at h
        by_cases hle : instant ≤ w.deadline
        · simp only [hle, if_true] at h
          rcases outcome with pending | failure | text
          · cases pending
            · exact absurd h (by simp only [reduceCtorEq, not_false_eq_true])
            · rw [← Sum.inr.inj h]
              exact ⟨rfl, rfl⟩
          · rw [← Sum.inr.inj h]
            exact ⟨rfl, rfl⟩
          · exact absurd h (by simp only [reduceCtorEq, not_false_eq_true])
        · simp only [hle, if_false] at h
          exact absurd h (by simp only [reduceCtorEq, not_false_eq_true])
      · simp only [next, hphase] at h
        exact absurd h (by simp only [reduceCtorEq, not_false_eq_true])
    simp only [backlog, rested.1, rested.2, hphase]
    omega

end Wait

/-- A wait on its own, with its surroundings. -/
structure Watch (σ : Type) where
  /-- The clock. -/
  now : Nat
  /-- When the shutdown comes, if it comes. -/
  shutdown : Option Nat
  /-- The wait, or how it ended. -/
  state : Verdict ⊕ Wait
  /-- Chains, metrics and record. -/
  outside : Surroundings σ

namespace Watch

variable {σ : Type}

/-- Begins to wait. If the shutdown has come, the wait is over before its
    ticker exists; a ticker without an interval crashes. -/
def begin (plan : Plan) (now : Nat) (shutdown : Option Nat) (tx : Submitted)
    (outside : Surroundings σ) : Watch σ :=
  { now := now, shutdown := shutdown, outside := outside
    state :=
      if shutdown.any (· ≤ now) then .inl .settled
      else if h : 0 < plan.interval then .inr (Wait.begin plan h now tx)
      else .inl (.crashed zeroIntervalText) }

/-- The next thing that happens up to an instant. A shutdown comes before
    whatever falls on the same instant. -/
def step? (lookup : Lookup σ) (limit : Nat) (w : Watch σ) : Option (Watch σ) :=
  match w.state with
  | .inl _ => none
  | .inr wait =>
    match w.shutdown.filter (· ≤ wait.due) with
    | some instant =>
      if instant ≤ limit then
        some { w with now := max w.now instant, state := .inl .settled }
      else none
    | none =>
      if wait.due ≤ limit then
        let r := wait.fire lookup w.outside
        some { w with now := max w.now wait.due, state := r.1, outside := r.2 }
      else none

/-- What is left to do up to an instant. -/
def backlog (limit : Nat) (w : Watch σ) : Nat :=
  match w.state with
  | .inl _ => 0
  | .inr wait => wait.backlog limit + 1

/-- Every step leaves less to do. -/
theorem step?_falls (lookup : Lookup σ) (limit : Nat) (w v : Watch σ)
    (h : step? lookup limit w = some v) : v.backlog limit < w.backlog limit := by
  unfold step? at h
  split at h
  · exact absurd h (by simp only [reduceCtorEq, not_false_eq_true])
  · rename_i wait hwait
    split at h
    · split at h
      · rw [← Option.some.inj h]
        simp only [backlog, hwait]
        omega
      · exact absurd h (by simp only [reduceCtorEq, not_false_eq_true])
    · split at h
      · rename_i hdue
        rw [← Option.some.inj h]
        simp only [backlog, hwait]
        rcases hfire : (wait.fire lookup w.outside).1 with verdict | next
        · simp only
          omega
        · have := Wait.backlog_fire lookup limit wait next w.outside hdue hfire
          simp only
          omega
      · exact absurd h (by simp only [reduceCtorEq, not_false_eq_true])

/-- Runs until the wait is over or an instant is reached. -/
def runTo (lookup : Lookup σ) (limit : Nat) (w : Watch σ) : Watch σ :=
  iterate (step? lookup limit) (backlog limit) (step?_falls lookup limit) w

end Watch

end Confirmation

end TxRelay
