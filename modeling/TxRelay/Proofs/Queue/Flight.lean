import TxRelay.Proofs.Broadcast.Step
import TxRelay.Proofs.Confirmation.Step
import TxRelay.Proofs.Queue.Chronicle
import TxRelay.Proofs.Queue.Register

/-!
# The Submission in Flight

What a step of the worker does with the submission it works on. The step is
spread over the send operation, the wait for confirmation and what the worker
makes of their ends, and `Flight` lists its cases once. It leaves the submission
in one of three ways, whatever the reason: it is still in flight, it is
answered, or the worker is taken down.

## Main definitions

* `Queue.Fate`: How a step leaves the submission in flight.
* `Queue.Returns`: The send operation in flight ends.
* `Queue.Flight`: A step of the worker with a submission in flight.

## Theorems

* `Queue.Flight.of_work?`: A step of a worker with a submission in flight is a
  flight.
* `Queue.Flight.acts`: A flight asks the chains at most once.
-/

namespace TxRelay

namespace Queue

variable {σ : Type}

-- A worker with a submission in flight is there.
theorem Stage.ending?_of_ticket? {stage : Stage} {n : Nat} (flight : stage.ticket? = some n) :
    stage.ending? = none := by
  cases stage with
  | ended how => exact absurd flight (by simp only [Stage.ticket?, reduceCtorEq, not_false_eq_true])
  | _ => rfl

/-- How a step leaves the submission in flight. -/
inductive Fate where
  /-- It is still in flight. -/
  | on (stage : Stage)
  /-- It is answered. -/
  | answered (r : Response)
  /-- The worker is taken down. -/
  | crash (text : String)

/-- The send operation in flight ends at an instant. -/
inductive Returns (q : Setup σ) (s : State σ) (n : Nat) :
    Nat → Outcome Submitted → Surroundings σ → Prop where
  /-- The caller's own operation ends. -/
  | direct {i : Nat} {outcome : Outcome Submitted}
      (stage : s.stage = .sending n (.direct (.arriving i outcome))) :
      Returns q s n i outcome s.outside
  /-- A broadcast ends. -/
  | relay {run : Broadcast.Run} {outcome : Outcome Submitted} {o : Surroundings σ}
      (stage : s.stage = .sending n (.relay run))
      (fire : run.fire q.broadcast s.outside = (.inl outcome, o)) :
      Returns q s n run.due outcome o

/-- A step of the worker with a submission in flight: when it falls due, what
    it brings to light, what it leaves of the surroundings and what becomes of
    the submission. -/
inductive Flight (q : Setup σ) (s : State σ) (n : Nat) :
    Nat → Option Happening → Surroundings σ → Fate → Prop where
  /-- A broadcast goes on. -/
  | retries {run next : Broadcast.Run} {o : Surroundings σ}
      (stage : s.stage = .sending n (.relay run))
      (fire : run.fire q.broadcast s.outside = (.inr next, o)) :
      Flight q s n run.due none o (.on (.sending n (.relay next)))
  /-- The send operation failed. -/
  | failed {i : Nat} {f : Failure} {o : Surroundings σ}
      (returns : Returns q s n i (.failure f) o) :
      Flight q s n i (some (.returned n (.failure f))) (o.measure Metrics.recordSendFailure)
        (.answered (.failed f))
  /-- The send operation took the worker down. -/
  | sendCrashed {i : Nat} {text : String} {o : Surroundings σ}
      (returns : Returns q s n i (.crash text) o) :
      Flight q s n i (some (.returned n (.crash text))) o (.crash text)
  /-- The transaction was sent, and the queue was closed meanwhile. -/
  | sentLate {i : Nat} {tx : Submitted} {o : Surroundings σ}
      (returns : Returns q s n i (.value tx) o) (closed : s.shutdown = true) :
      Flight q s n i (some (.returned n (.value tx)))
        (o.measure fun m =>
          m.recordConfirmed tx.chain (.ofMillis (max s.now i - max s.now i)))
        (.answered (.submitted tx))
  /-- The transaction was sent and is waited for. -/
  | sent {i : Nat} {tx : Submitted} {o : Surroundings σ}
      (returns : Returns q s n i (.value tx) o) (opened : s.shutdown = false)
      (paced : 0 < q.plan.interval) :
      Flight q s n i (some (.returned n (.value tx))) o
        (.on (.confirming n (max s.now i) (.begin q.plan paced (max s.now i) tx)))
  /-- The transaction was sent, and there is no pace to wait for it. -/
  | unpaced {i : Nat} {tx : Submitted} {o : Surroundings σ}
      (returns : Returns q s n i (.value tx) o) (opened : s.shutdown = false)
      (unpaced : ¬ 0 < q.plan.interval) :
      Flight q s n i (some (.returned n (.value tx))) o (.crash Confirmation.zeroIntervalText)
  /-- The queue was closed, and the wait ends. -/
  | abandoned {began : Nat} {wait : Confirmation.Wait}
      (stage : s.stage = .confirming n began wait) (closed : s.shutdown = true) :
      Flight q s n s.now none
        (s.outside.measure fun m => m.recordConfirmed wait.tx.chain (.ofMillis (s.now - began)))
        (.answered (.submitted wait.tx))
  /-- A lookup is made. -/
  | asks {began i : Nat} {wait next : Confirmation.Wait} {o : Surroundings σ}
      (stage : s.stage = .confirming n began wait) (opened : s.shutdown = false)
      (tick : wait.next = .tick i) (fire : wait.fire q.lookup s.outside = (.inr next, o)) :
      Flight q s n i (some (.asked n wait.tx)) o (.on (.confirming n began next))
  /-- A lookup says that the transaction is pending, or says nothing. -/
  | pending {began i : Nat} {wait next : Confirmation.Wait} {outcome : Outcome Bool}
      {o : Surroundings σ}
      (stage : s.stage = .confirming n began wait) (opened : s.shutdown = false)
      (answer : wait.next = .answer i outcome)
      (fire : wait.fire q.lookup s.outside = (.inr next, o)) :
      Flight q s n i (some (.heard n wait.tx wait.since outcome)) o
        (.on (.confirming n began next))
  /-- A lookup says that the transaction is no longer pending. -/
  | settled {began i : Nat} {wait : Confirmation.Wait}
      (stage : s.stage = .confirming n began wait) (opened : s.shutdown = false)
      (answer : wait.next = .answer i (.value false)) :
      Flight q s n i (some (.heard n wait.tx wait.since (.value false)))
        (s.outside.measure fun m =>
          m.recordConfirmed wait.tx.chain (.ofMillis (max s.now i - began)))
        (.answered (.submitted wait.tx))
  /-- A lookup took the worker down. -/
  | lookupCrashed {began i : Nat} {wait : Confirmation.Wait} {text : String}
      (stage : s.stage = .confirming n began wait) (opened : s.shutdown = false)
      (answer : wait.next = .answer i (.crash text)) :
      Flight q s n i (some (.heard n wait.tx wait.since (.crash text))) s.outside (.crash text)
  /-- The wait reached its limit. -/
  | gaveUp {began i : Nat} {wait : Confirmation.Wait}
      (stage : s.stage = .confirming n began wait) (opened : s.shutdown = false)
      (limit : wait.next = .giveUp i) :
      Flight q s n i none (s.outside.measure fun m => m.recordUnconfirmed wait.tx.chain)
        (.answered (.failed (.transactionMissing wait.tx.hash)))

-- A send operation that ends was under way.
theorem Returns.sending {q : Setup σ} {s : State σ} {n i : Nat} {outcome : Outcome Submitted}
    {o : Surroundings σ} (returns : Returns q s n i outcome o) :
    ∃ operation, s.stage = .sending n operation := by
  cases returns with
  | direct stage => exact ⟨_, stage⟩
  | relay stage fire => exact ⟨_, stage⟩

namespace State

/-- A state at a later instant and with other surroundings. -/
def after (i : Nat) (o : Surroundings σ) (s : State σ) : State σ :=
  { s.moveTo i with outside := o }

theorem inHand_after (i : Nat) (o : Surroundings σ) (s : State σ) :
    (s.after i o).inHand = s.inHand := rfl

theorem inLine_after (i : Nat) (o : Surroundings σ) (s : State σ) :
    (s.after i o).inLine = s.inLine := rfl

/-- What becomes of a submission in flight. -/
def follow (n : Nat) (fate : Fate) (s : State σ) : State σ :=
  match fate with
  | .on stage => { s with stage := stage }
  | .answered r => { s with stage := .idle }.answer n r
  | .crash text => s.leave (.crashed text)

end State

namespace Flight

variable {q : Setup σ} {s : State σ} {n : Nat}

-- A send operation that ends is answered, waited for, or takes the worker
-- down.
theorem of_returns {i : Nat} {outcome : Outcome Submitted} {o : Surroundings σ}
    (returns : Returns q s n i outcome o) :
    ∃ o' fate, Flight q s n i (some (.returned n outcome)) o' fate ∧
      (s.after i o).concludeSend q n outcome = (s.after i o').follow n fate := by
  cases outcome with
  | value tx =>
    cases closed : s.shutdown with
    | true =>
      refine ⟨_, _, sentLate returns closed, ?_⟩
      simp only [State.concludeSend]
      rw [if_pos (by exact closed)]
      rfl
    | false =>
      have opened : ¬(s.after i o).shutdown = true := by
        rw [show (s.after i o).shutdown = false from closed]
        exact Bool.noConfusion
      by_cases paced : 0 < q.plan.interval
      · refine ⟨_, _, sent returns closed paced, ?_⟩
        simp only [State.concludeSend]
        rw [if_neg opened, dif_pos paced]
        rfl
      · refine ⟨_, _, unpaced returns closed paced, ?_⟩
        simp only [State.concludeSend]
        rw [if_neg opened, dif_neg paced]
        rfl
  | failure f => exact ⟨_, _, failed returns, rfl⟩
  | crash text => exact ⟨_, _, sendCrashed returns, rfl⟩

/-- A step up to an instant is one of the submission in flight. -/
def Reaches (q : Setup σ) (s : State σ) (n limit : Nat) (t : State σ) : Prop :=
  ∃ i d o fate, Flight q s n i d o fate ∧ t = (s.after i o).follow n fate ∧
    s.deed? q limit = d ∧ (i ≤ limit ∨ i = s.now)

-- The caller's own operation is under way.
theorem of_direct {t : State σ} {limit : Nat} {answer : Answer Submitted}
    (stage : s.stage = .sending n (.direct answer)) (work : s.work? q limit = some t) :
    Reaches q s n limit t := by
  cases answer with
  | never =>
    simp only [State.work?, stage] at work
    exact absurd work (by simp only [reduceCtorEq, not_false_eq_true])
  | arriving i outcome =>
    simp only [State.work?, stage] at work
    by_cases due : i ≤ limit
    · rw [if_pos due] at work
      rcases of_returns (Returns.direct (q := q) stage) with ⟨o, fate, step, state⟩
      refine ⟨_, _, _, _, step, (Option.some.inj work).symm.trans state, ?_, Or.inl due⟩
      simp only [State.deed?, stage, if_pos due]
    · rw [if_neg due] at work
      exact absurd work (by simp only [reduceCtorEq, not_false_eq_true])

-- A broadcast is under way.
theorem of_relay {t : State σ} {limit : Nat} {run : Broadcast.Run}
    (stage : s.stage = .sending n (.relay run)) (work : s.work? q limit = some t) :
    Reaches q s n limit t := by
  simp only [State.work?, stage] at work
  by_cases due : run.due ≤ limit
  · rw [if_pos due] at work
    rcases fired : run.fire q.broadcast s.outside with ⟨outcome | next, o⟩
    · rw [fired] at work
      rcases of_returns (Returns.relay (q := q) stage fired) with ⟨o', fate, step, state⟩
      refine ⟨_, _, _, _, step, (Option.some.inj work).symm.trans state, ?_, Or.inl due⟩
      simp only [State.deed?, stage, if_pos due, fired]
    · rw [fired] at work
      refine ⟨_, _, _, _, retries stage fired, (Option.some.inj work).symm, ?_, Or.inl due⟩
      simp only [State.deed?, stage, if_pos due, fired]
  · rw [if_neg due] at work
    exact absurd work (by simp only [reduceCtorEq, not_false_eq_true])

-- A confirmation is waited for, and the queue was closed.
theorem of_abandoned {t : State σ} {limit began : Nat} {wait : Confirmation.Wait}
    (stage : s.stage = .confirming n began wait) (closed : s.shutdown = true)
    (work : s.work? q limit = some t) : Reaches q s n limit t := by
  simp only [State.work?, stage] at work
  rw [if_pos closed] at work
  refine ⟨_, _, _, _, abandoned stage closed, (Option.some.inj work).symm.trans ?_, ?_,
    Or.inr rfl⟩
  · simp only [State.confirm, State.after, State.moveTo, Nat.max_self]
    rfl
  · simp only [State.deed?, stage, if_pos closed]

-- What a step of a wait does, and what it brings to light.
theorem work?_confirming {limit began : Nat} {wait : Confirmation.Wait}
    {r : (Confirmation.Verdict ⊕ Confirmation.Wait) × Surroundings σ}
    (stage : s.stage = .confirming n began wait) (opened : s.shutdown = false)
    (due : wait.due ≤ limit) (fired : wait.fire q.lookup s.outside = r) :
    s.work? q limit =
      match r.1 with
      | .inl verdict => some ((s.after wait.due r.2).concludeWait n began wait.tx verdict)
      | .inr next => some { s.after wait.due r.2 with stage := .confirming n began next } := by
  simp only [State.work?, stage, if_neg (Bool.eq_false_iff.mp opened), if_pos due, fired]
  rfl

-- What a step of a wait brings to light.
theorem deed?_confirming {limit began : Nat} {wait : Confirmation.Wait}
    (stage : s.stage = .confirming n began wait) (opened : s.shutdown = false)
    (due : wait.due ≤ limit) :
    s.deed? q limit = match wait.next with
      | .tick _ => some (.asked n wait.tx)
      | .answer _ outcome => some (.heard n wait.tx wait.since outcome)
      | .giveUp _ => none := by
  unfold State.deed?
  rw [stage]
  exact (if_neg (Bool.eq_false_iff.mp opened)).trans (if_pos due)

-- A confirmation is waited for, and the queue is open.
theorem of_confirming {t : State σ} {limit began : Nat} {wait : Confirmation.Wait}
    (stage : s.stage = .confirming n began wait) (opened : s.shutdown = false)
    (work : s.work? q limit = some t) : Reaches q s n limit t := by
  by_cases due : wait.due ≤ limit
  · have deed := deed?_confirming (q := q) stage opened due
    -- A step that ends the wait, and one after which it goes on.
    have ends {i verdict} {o : Surroundings σ} (instant : wait.due = i)
        (fired : wait.fire q.lookup s.outside = (.inl verdict, o)) :
        t = (s.after i o).concludeWait n began wait.tx verdict := by
      rw [work?_confirming stage opened due fired, instant] at work
      exact (Option.some.inj work).symm
    have on {i next} {o : Surroundings σ} (instant : wait.due = i)
        (fired : wait.fire q.lookup s.outside = (.inr next, o)) :
        t = (s.after i o).follow n (.on (.confirming n began next)) := by
      rw [work?_confirming stage opened due fired, instant] at work
      exact (Option.some.inj work).symm
    rcases next : wait.next with i | ⟨i, (_ | _) | f | text⟩ | i
    all_goals
      have instant : wait.due = i := congrArg Confirmation.Wait.Next.instant next
      have soon : i ≤ limit := instant ▸ due
      rw [next] at deed
    · have fired : wait.fire q.lookup s.outside = _ := Confirmation.Wait.fire_tick next
      exact ⟨i, _, _, _, asks stage opened next fired, on instant fired, deed, Or.inl soon⟩
    · have fired : wait.fire q.lookup s.outside = _ := Confirmation.Wait.fire_settled next
      exact ⟨i, _, _, _, settled stage opened next, ends instant fired, deed, Or.inl soon⟩
    · have fired : wait.fire q.lookup s.outside = _ := Confirmation.Wait.fire_pending next
      exact ⟨i, _, _, _, pending stage opened next fired, on instant fired, deed, Or.inl soon⟩
    · have fired : wait.fire q.lookup s.outside = _ := Confirmation.Wait.fire_failure next
      exact ⟨i, _, _, _, pending stage opened next fired, on instant fired, deed, Or.inl soon⟩
    · have fired : wait.fire q.lookup s.outside = _ := Confirmation.Wait.fire_crash next
      exact ⟨i, _, _, _, lookupCrashed stage opened next, ends instant fired, deed, Or.inl soon⟩
    · have fired : wait.fire q.lookup s.outside = _ := Confirmation.Wait.fire_giveUp next
      exact ⟨i, _, _, _, gaveUp stage opened next, ends instant fired, deed, Or.inl soon⟩
  · simp only [State.work?, stage, if_neg (Bool.eq_false_iff.mp opened), if_neg due] at work
    exact absurd work (by simp only [reduceCtorEq, not_false_eq_true])

/-- A step of a worker with a submission in flight. -/
theorem of_work? {t : State σ} {limit : Nat} (flight : s.stage.ticket? = some n)
    (work : s.work? q limit = some t) : Reaches q s n limit t := by
  rcases stage : s.stage with _ | _ | ⟨ticket, answer | run⟩ | ⟨ticket, began, wait⟩ | how
  · exact absurd ((congrArg Stage.ticket? stage).symm.trans flight)
      (by simp only [Stage.ticket?, reduceCtorEq, not_false_eq_true])
  · exact absurd ((congrArg Stage.ticket? stage).symm.trans flight)
      (by simp only [Stage.ticket?, reduceCtorEq, not_false_eq_true])
  · rw [show ticket = n from Option.some.inj ((congrArg Stage.ticket? stage).symm.trans flight)]
      at stage
    exact of_direct stage work
  · rw [show ticket = n from Option.some.inj ((congrArg Stage.ticket? stage).symm.trans flight)]
      at stage
    exact of_relay stage work
  · rw [show ticket = n from Option.some.inj ((congrArg Stage.ticket? stage).symm.trans flight)]
      at stage
    cases closed : s.shutdown with
    | true => exact of_abandoned stage closed work
    | false => exact of_confirming stage closed work
  · exact absurd ((congrArg Stage.ticket? stage).symm.trans flight)
      (by simp only [Stage.ticket?, reduceCtorEq, not_false_eq_true])

-- A step in flight is taken with something in flight.
theorem ticket? {i : Nat} {d : Option Happening} {o : Surroundings σ} {fate : Fate}
    (flight : Flight q s n i d o fate) : s.stage.ticket? = some n := by
  have sending {i outcome o} (returns : Returns q s n i outcome o) :
      s.stage.ticket? = some n := by
    rcases returns.sending with ⟨operation, stage⟩
    rw [stage]
    rfl
  cases flight with
  | retries stage fire => rw [stage]; rfl
  | failed returns => exact sending returns
  | sendCrashed returns => exact sending returns
  | sentLate returns closed => exact sending returns
  | sent returns opened paced => exact sending returns
  | unpaced returns opened unpaced => exact sending returns
  | abandoned stage closed => rw [stage]; rfl
  | asks stage opened tick fire => rw [stage]; rfl
  | pending stage opened answer fire => rw [stage]; rfl
  | settled stage opened answer => rw [stage]; rfl
  | lookupCrashed stage opened answer => rw [stage]; rfl
  | gaveUp stage opened limit => rw [stage]; rfl

-- A submission that stays in flight is the same.
theorem ticket?_on {i : Nat} {d : Option Happening} {o : Surroundings σ} {stage : Stage}
    (flight : Flight q s n i d o (.on stage)) : stage.ticket? = some n := by
  cases flight <;> rfl

-- A send operation that ends asks nothing of the chains any more.
theorem acts_of_returns {i : Nat} {outcome : Outcome Submitted} {o : Surroundings σ}
    (returns : Returns q s n i outcome o) : o.acts = s.outside.acts := by
  cases returns with
  | direct stage => rfl
  | relay stage fire =>
    rename_i run
    have ends := run.fire_over (congrArg Prod.fst fire)
    rw [← ends, fire]

/-- A step in flight asks the chains at most once, and begins no send
    operation. -/
theorem acts {i : Nat} {d : Option Happening} {o : Surroundings σ} {fate : Fate}
    (flight : Flight q s n i d o fate) :
    o.acts = s.outside.acts ∨ ∃ a, a.sent? = none ∧ o.acts = (i, a) :: s.outside.acts := by
  cases flight with
  | retries stage fire =>
    rename_i run next
    rcases run.fire_acts q.broadcast s.outside with same | more
    · exact Or.inl (by rw [← same, fire])
    · exact Or.inr ⟨_, rfl, by rw [← more, fire]⟩
  | failed returns => exact Or.inl (acts_of_returns returns :)
  | sendCrashed returns => exact Or.inl (acts_of_returns returns)
  | sentLate returns closed => exact Or.inl (acts_of_returns returns :)
  | sent returns opened paced => exact Or.inl (acts_of_returns returns)
  | unpaced returns opened unpaced => exact Or.inl (acts_of_returns returns)
  | asks stage opened tick fire =>
    rename_i began wait next
    have instant : wait.due = i := congrArg Confirmation.Wait.Next.instant tick
    rcases wait.fire_acts q.lookup s.outside with same | more
    · exact Or.inl (by rw [← same, fire])
    · exact Or.inr ⟨_, rfl, by rw [← instant, ← more, fire]⟩
  | pending stage opened answer fire =>
    rename_i began wait next outcome
    have instant : wait.due = i := congrArg Confirmation.Wait.Next.instant answer
    rcases wait.fire_acts q.lookup s.outside with same | more
    · exact Or.inl (by rw [← same, fire])
    · exact Or.inr ⟨_, rfl, by rw [← instant, ← more, fire]⟩
  | abandoned stage closed => exact Or.inl rfl
  | settled stage opened answer => exact Or.inl rfl
  | lookupCrashed stage opened answer => exact Or.inl rfl
  | gaveUp stage opened limit => exact Or.inl rfl

-- A step that answers asks nothing of the chains.
theorem acts_over {i : Nat} {d : Option Happening} {o : Surroundings σ} {r : Response}
    (flight : Flight q s n i d o (.answered r)) : o.acts = s.outside.acts := by
  cases flight with
  | failed returns => exact (acts_of_returns returns :)
  | sentLate returns closed => exact (acts_of_returns returns :)
  | abandoned stage closed => rfl
  | settled stage opened answer => rfl
  | gaveUp stage opened limit => rfl

-- A step that takes the worker down asks nothing of the chains.
theorem acts_crash {i : Nat} {d : Option Happening} {o : Surroundings σ} {text : String}
    (flight : Flight q s n i d o (.crash text)) : o.acts = s.outside.acts := by
  cases flight with
  | sendCrashed returns => exact acts_of_returns returns
  | unpaced returns opened unpaced => exact acts_of_returns returns
  | lookupCrashed stage opened answer => rfl

end Flight

end Queue

end TxRelay
