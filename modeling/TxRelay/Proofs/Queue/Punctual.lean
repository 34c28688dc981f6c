import TxRelay.Proofs.Queue.Step

/-!
# Steps on Time

Time passes only up to the worker's next step, so the clock is never past the
instant at which that step falls due, and every step of a submission in flight
is taken exactly when it is due. The instants that the history gives for
what the worker does are therefore the ones that its send operation, its lookups
and its limit ask for.

## Main definitions

* `Queue.Stage.due?`: When the worker's next step falls due.
* `Queue.Punctual`: The clock is not past it.

## Theorems

* `Queue.Punctual.kept`: Every step keeps the clock.
* `Queue.Punctual.now_flight`: A step in flight is taken when it is due.
-/

namespace TxRelay

namespace Queue

variable {σ : Type}

/-- When a send operation has its next step. -/
def Sending.due? : Sending → Option Nat
  | .direct (.arriving instant _) => some instant
  | .direct .never => none
  | .relay run => some run.due

/-- When the submission in flight has its next step. -/
def Stage.due? : Stage → Option Nat
  | .sending _ operation => operation.due?
  | .confirming _ _ wait => some wait.due
  | _ => none

/-- The clock is not past the next step of the submission in flight. -/
def Punctual (s : State σ) : Prop :=
  ∀ i, s.stage.due? = some i → s.now ≤ i

-- A worker that rests up to an instant has its next step after it.
theorem State.lt_due_of_rest {q : Setup σ} {s : State σ} {limit i : Nat}
    (rest : s.work? q limit = none) (due : s.stage.due? = some i) : limit < i := by
  unfold work? at rest
  refine Nat.lt_of_not_le ?_
  intro early
  rcases stage : s.stage with _ | _ | ⟨n, (⟨instant, outcome⟩ | _) | run⟩ | ⟨n, began, wait⟩ | how
  all_goals
    rw [stage] at rest due
    dsimp only [Stage.due?, Sending.due?] at rest due
  · exact absurd due (by simp only [reduceCtorEq, not_false_eq_true])
  · exact absurd due (by simp only [reduceCtorEq, not_false_eq_true])
  · rw [Option.some.inj due, if_pos early] at rest
    exact absurd rest (by simp only [reduceCtorEq, not_false_eq_true])
  · exact absurd due (by simp only [reduceCtorEq, not_false_eq_true])
  · rw [Option.some.inj due, if_pos early] at rest
    split at rest <;> exact absurd rest (by simp only [reduceCtorEq, not_false_eq_true])
  · by_cases closed : s.shutdown = true
    · rw [if_pos closed] at rest
      exact absurd rest (by simp only [reduceCtorEq, not_false_eq_true])
    · rw [if_neg closed, Option.some.inj due, if_pos early] at rest
      split at rest <;> exact absurd rest (by simp only [reduceCtorEq, not_false_eq_true])
  · exact absurd due (by simp only [reduceCtorEq, not_false_eq_true])

namespace Flight

variable {q : Setup σ} {s : State σ} {n i : Nat} {d : Option Happening} {o : Surroundings σ}

-- A send operation ends when it is due.
theorem due_of_returns {outcome : Outcome Submitted} (returns : Returns q s n i outcome o) :
    s.stage.due? = some i := by
  cases returns with
  | direct stage => rw [stage]; rfl
  | relay stage fire => rw [stage]; rfl

-- A step in flight is taken when it is due, or at once after a shutdown.
theorem due {fate : Fate} (flight : Flight q s n i d o fate) :
    s.stage.due? = some i ∨ i = s.now := by
  have waits {began wait} (stage : s.stage = .confirming n began wait) (instant : wait.due = i) :
      s.stage.due? = some i ∨ i = s.now := by
    rw [stage, ← instant]
    exact Or.inl rfl
  cases flight with
  | retries stage fire => exact Or.inl (by rw [stage]; rfl)
  | failed returns => exact Or.inl (due_of_returns returns)
  | sendCrashed returns => exact Or.inl (due_of_returns returns)
  | sentLate returns closed => exact Or.inl (due_of_returns returns)
  | sent returns opened paced => exact Or.inl (due_of_returns returns)
  | unpaced returns opened unpaced => exact Or.inl (due_of_returns returns)
  | abandoned stage closed => exact Or.inr rfl
  | asks stage opened tick fire =>
    exact waits stage (congrArg Confirmation.Wait.Next.instant tick)
  | pending stage opened answer fire =>
    exact waits stage (congrArg Confirmation.Wait.Next.instant answer)
  | settled stage opened answer =>
    exact waits stage (congrArg Confirmation.Wait.Next.instant answer)
  | lookupCrashed stage opened answer =>
    exact waits stage (congrArg Confirmation.Wait.Next.instant answer)
  | gaveUp stage opened limit =>
    exact waits stage (congrArg Confirmation.Wait.Next.instant limit)

-- The step after one that goes on comes no earlier.
theorem le_due_on {stage : Stage} (flight : Flight q s n i d o (.on stage)) (now : s.now ≤ i)
    {j : Nat} (next : stage.due? = some j) : i ≤ j := by
  cases flight with
  | retries stage fire =>
    rw [← Option.some.inj next]
    exact Broadcast.Run.due_le_of_fire (congrArg Prod.fst fire)
  | sent returns opened paced =>
    rw [← Option.some.inj next, Confirmation.Wait.due_begin]
    exact Nat.le_max_right s.now i
  | asks stage opened tick fire =>
    rw [← Option.some.inj next, ← show _ = i from congrArg Confirmation.Wait.Next.instant tick]
    exact Confirmation.Wait.due_le_of_fire (congrArg Prod.fst fire)
  | pending stage opened answer fire =>
    rw [← Option.some.inj next, ← show _ = i from congrArg Confirmation.Wait.Next.instant answer]
    exact Confirmation.Wait.due_le_of_fire (congrArg Prod.fst fire)

end Flight

namespace Punctual

variable {q : Setup σ} {s t : State σ} {h : List (Nat × Happening)}

-- A step in flight is not overdue.
theorem le_flight {n i : Nat} {d : Option Happening} {o : Surroundings σ} {fate : Fate}
    (p : Punctual s) (flight : Flight q s n i d o fate) : s.now ≤ i := by
  rcases flight.due with due | now
  · exact p i due
  · exact Nat.le_of_eq now.symm

/-- A step in flight is taken when it is due. -/
theorem now_flight {n i : Nat} {d : Option Happening} {o : Surroundings σ} {fate : Fate}
    (p : Punctual s) (flight : Flight q s n i d o fate) : max s.now i = i :=
  Nat.max_eq_right (p.le_flight flight)

-- Without a submission in flight nothing is due.
theorem of_free (free : t.stage.ticket? = none) : Punctual t := by
  intro i due
  cases stage : t.stage with
  | sending n sending =>
    rw [stage] at free
    exact absurd free (by simp only [Stage.ticket?, reduceCtorEq, not_false_eq_true])
  | confirming n began wait =>
    rw [stage] at free
    exact absurd free (by simp only [Stage.ticket?, reduceCtorEq, not_false_eq_true])
  | _ =>
    rw [stage] at due
    exact absurd due (by simp only [Stage.due?, reduceCtorEq, not_false_eq_true])

-- A worker that goes away has nothing due.
theorem leave (how : Ending) (s : State σ) : Punctual (s.leave how) := by
  refine of_free ?_
  rw [(s.leave_cleared how).2]
  rfl

-- The first step of an entry that is taken is due now or later.
theorem take (q : Setup σ) (e : Entry) (rest : List Entry) (s : State σ) :
    Punctual (s.receive q e rest) := by
  intro i due
  rcases e with ⟨n, reply | run⟩
  · cases reply with
    | after delay outcome =>
      rw [← Option.some.inj due]
      exact Nat.le_add_right s.now delay
    | never =>
      exact absurd due (by simp only [State.receive, Stage.due?, Sending.due?, Reply.calledAt,
        reduceCtorEq, not_false_eq_true])
  · rw [← Option.some.inj due]
    exact Broadcast.Run.le_due_call q.broadcast s.now _ _ _

/-- Every step keeps the clock. -/
theorem kept (step : Step q s h t) (p : Punctual s) : Punctual t := by
  cases step with
  | start stage => exact of_free rfl
  | turnAway held shut => exact p
  | accept send held opened alive room => exact p
  | lineUp send held opened alive full => exact p
  | leaveLine ticket => exact p
  | depart ticket absent => exact p
  | close held running =>
    rcases s.close_shape with ⟨m, shape⟩
    rw [shape]
    exact p
  | dropHandle => exact p
  | lose alive => exact leave s.loss s
  | store granted waiters => exact p
  | take stage opened buffer => exact take q _ _ s
  | goesOn flight acts calm =>
    -- The clock is set to this step, and the next one comes no earlier.
    intro j due
    have later := flight.le_due_on (p.le_flight flight) due
    exact Nat.max_le.mpr ⟨Nat.le_trans (p.le_flight flight) later, later⟩
  | isOver flight calm => exact of_free rfl
  | crashes flight calm => exact leave _ _
  | drain stage closed => exact leave .finished _
  | finish stage opened buffer held waiters => exact leave .finished s
  | wait limit later granted rest =>
    -- Time stops short of the next step.
    intro i due
    exact Nat.max_le.mpr ⟨p i due, Nat.le_of_lt (State.lt_due_of_rest rest due)⟩

end Punctual

end Queue

end TxRelay
