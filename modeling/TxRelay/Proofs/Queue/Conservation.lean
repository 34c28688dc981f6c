import TxRelay.Proofs.Metrics.Counting
import TxRelay.Proofs.Queue.Ledger

/-!
# Submissions Are Conserved

The metrics count every accepted submission when it comes in and once more when
it goes: as drained, as a failed send, as confirmed or as unconfirmed. What a
worker takes with it when it is lost is counted nowhere, and what is stored or in
flight is still to be counted. The two sides balance after every move.

Counters stop at `2 ^ 53`. A tally keeps the exact numbers beside them, so the
balance does not depend on it; while no more submissions were accepted than that,
the counters themselves balance.

## Main definitions

* `Queue.Tally`: How often submissions went, exactly.
* `Queue.State.lostTo`, `Queue.State.lost`: What a worker takes with it that is
  lost in a move, and in a run.
* `Queue.Balanced`: The metrics show a tally, and it balances.

## Theorems

* `Queue.Flight.counts`: What a step in flight counts.
* `Queue.Balanced.kept`: Every step keeps the balance.
* `Queue.counters_conserved`: In every run the counters balance.
-/

namespace TxRelay

namespace Metrics

/-- The counters of submissions. -/
structure Counts where
  /-- Admissions and closures of the queue, by kind. -/
  queueEvents : Labelled Nat
  /-- Confirmed transactions, by chain. -/
  confirmed : Labelled Nat
  /-- Unconfirmed transactions, by chain. -/
  unconfirmed : Labelled Nat
  /-- Send operations that failed. -/
  sendFailures : Nat

/-- What the metrics count of submissions. -/
def counts (m : Metrics) : Counts :=
  ⟨m.queueEvents, m.confirmed, m.unconfirmed, m.sendFailures⟩

-- The depth counts nothing.
theorem counts_setQueueDepth (depth : Nat) (m : Metrics) :
    (m.setQueueDepth depth).counts = m.counts := by
  have other (d : Int) : ({ m with queueDepth := d } : Metrics).counts = m.counts := rfl
  exact other _

end Metrics

-- A broadcast counts nothing.
theorem Broadcast.Run.metrics_fire {σ : Type} (send : Broadcaster σ) (r : Run)
    (s : Surroundings σ) : (r.fire send s).2.metrics = s.metrics := by
  unfold fire
  split
  · split
    · split <;> rfl
    · rfl
  · rfl
  · rfl

-- A wait counts failed lookups only.
theorem Confirmation.Wait.counts_fire {σ : Type} (lookup : Lookup σ) (w : Wait)
    (s : Surroundings σ) : (w.fire lookup s).2.metrics.counts = s.metrics.counts := by
  rcases next : w.next with i | ⟨i, (_ | _) | f | text⟩ | i
  · rw [fire_tick next]
    rfl
  · rw [fire_settled next]
  · rw [fire_pending next]
  · rw [fire_failure next]
    rfl
  · rw [fire_crash next]
  · rw [fire_giveUp next]

namespace Queue

variable {σ : Type}

/-- What counts a submission that is answered. -/
inductive Departs (m : Metrics) : Metrics.Counts → Prop where
  /-- Its send operation failed. -/
  | failed : Departs m m.recordSendFailure.counts
  /-- It was seen leaving the pending pool, or the queue was closed. -/
  | confirmed (chain : ChainId) (latency : Binary64) :
      Departs m (m.recordConfirmed chain latency).counts
  /-- It was not seen leaving the pending pool. -/
  | unconfirmed (chain : ChainId) : Departs m (m.recordUnconfirmed chain).counts

namespace Flight

variable {q : Setup σ} {s : State σ} {n i : Nat} {d : Option Happening} {o : Surroundings σ}

-- A send operation that ends counts nothing by itself.
theorem metrics_of_returns {outcome : Outcome Submitted} (returns : Returns q s n i outcome o) :
    o.metrics = s.outside.metrics := by
  cases returns with
  | direct stage => rfl
  | @relay run _ _ stage fire =>
    have same := run.metrics_fire q.broadcast s.outside
    rw [fire] at same
    exact same

/-- A step in flight counts the submission when it answers it, and not before. -/
theorem counts {fate : Fate} (flight : Flight q s n i d o fate) :
    match fate with
    | .answered _ => Departs s.outside.metrics o.metrics.counts
    | _ => o.metrics.counts = s.outside.metrics.counts := by
  cases flight with
  | @retries run next _ stage fire =>
    have same := run.metrics_fire q.broadcast s.outside
    rw [fire] at same
    exact congrArg Metrics.counts same
  | failed returns =>
    dsimp only [Surroundings.measure]
    rw [metrics_of_returns returns]
    exact .failed
  | sendCrashed returns => exact congrArg Metrics.counts (metrics_of_returns returns)
  | sentLate returns closed =>
    dsimp only [Surroundings.measure]
    rw [metrics_of_returns returns]
    exact .confirmed _ _
  | sent returns opened paced => exact congrArg Metrics.counts (metrics_of_returns returns)
  | unpaced returns opened unpaced => exact congrArg Metrics.counts (metrics_of_returns returns)
  | abandoned stage closed => exact .confirmed _ _
  | @asks _ _ wait _ _ stage opened tick fire =>
    have same := wait.counts_fire q.lookup s.outside
    rw [fire] at same
    exact same
  | @pending _ _ wait _ _ _ stage opened answer fire =>
    have same := wait.counts_fire q.lookup s.outside
    rw [fire] at same
    exact same
  | settled stage opened answer => exact .confirmed _ _
  | lookupCrashed stage opened answer => rfl
  | gaveUp stage opened limit => exact .unconfirmed _

end Flight

/-- How often submissions went, exactly. -/
structure Tally where
  /-- Answered when the queue was closed. -/
  drained : Nat
  /-- Confirmed, by chain. -/
  confirmed : Labelled Nat
  /-- Unconfirmed, by chain. -/
  unconfirmed : Labelled Nat
  /-- Stored or in flight when the worker was lost. -/
  lost : Nat

namespace State

/-- What is stored or in flight when the worker is lost on the way from one state
    to another. A worker that finishes is not lost. -/
def lostTo (s t : State σ) : Nat :=
  match s.stage.ending?, t.stage.ending? with
  | none, some how => if how = .finished then 0 else s.inHand.length
  | _, _ => 0

/-- What is lost in a run. -/
def lost (q : Setup σ) : List Move → State σ → Nat
  | [], _ => 0
  | m :: moves, s => s.lostTo (s.move q m) + lost q moves (s.move q m)

-- A worker that stays is not lost.
theorem lostTo_of_alive {s t : State σ} (alive : t.stage.ending? = none) : s.lostTo t = 0 := by
  unfold lostTo
  rw [alive]
  cases s.stage.ending? <;> rfl

-- A worker that is gone is not lost again.
theorem lostTo_of_stage {s t : State σ} (same : t.stage.ending? = s.stage.ending?) :
    s.lostTo t = 0 := by
  unfold lostTo
  rw [same]
  cases s.stage.ending? <;> rfl

-- Whoever goes away before its work is over takes everything with it.
theorem lostTo_of_left {s t : State σ} {how : Ending} (alive : s.stage.ending? = none)
    (gone : t.stage.ending? = some how) (early : how ≠ .finished) :
    s.lostTo t = s.inHand.length := by
  unfold lostTo
  rw [alive, gone]
  exact if_neg early

-- Whoever finishes loses nothing.
theorem lostTo_of_finished {s t : State σ} (gone : t.stage.ending? = some .finished) :
    s.lostTo t = 0 := by
  unfold lostTo
  rw [gone]
  cases s.stage.ending? <;> rfl

end State

/-- The metrics show a tally, and everything that was accepted went or is still
    there. -/
structure Balanced (t : Tally) (s : State σ) : Prop where
  /-- The events of the queue are in order. -/
  sorted : s.outside.metrics.counts.queueEvents.Sorted
  /-- What was accepted is counted. -/
  enqueued : s.outside.metrics.counts.queueEvents.value "enqueued" =
    Counter.shown s.accepted.length
  /-- What was turned away is counted. -/
  rejected : s.outside.metrics.counts.queueEvents.value "rejected" =
    Counter.shown s.rejected.length
  /-- What was drained is counted at once. -/
  drained : s.outside.metrics.counts.queueEvents.value "drained" =
    Counter.add 0 (Counter.ofNat t.drained)
  /-- What was confirmed is counted. -/
  confirmed : s.outside.metrics.counts.confirmed = t.confirmed.shown
  /-- What was not confirmed is counted. -/
  unconfirmed : s.outside.metrics.counts.unconfirmed = t.unconfirmed.shown
  /-- What was accepted went, was lost, or is still in hand. -/
  balance : s.accepted.length = t.drained + s.outside.metrics.counts.sendFailures +
    t.confirmed.total + t.unconfirmed.total + t.lost + s.inHand.length

namespace Balanced

variable {q : Setup σ} {s u : State σ} {t : Tally} {h : List (Nat × Happening)}

-- Nothing was counted yet.
theorem fresh (world : σ) :
    Balanced ⟨0, [], [], 0⟩ (State.fresh (.fresh world)) :=
  { sorted := List.Pairwise.nil
    enqueued := rfl
    rejected := rfl
    drained := (Counter.add_ofNat (Nat.zero_le _)).symm
    confirmed := rfl
    unconfirmed := rfl
    balance := rfl }

/-- What counts nothing and moves nothing in or out keeps the balance. -/
theorem congr (b : Balanced t s) (counts : u.outside.metrics.counts = s.outside.metrics.counts)
    (accepted : u.accepted = s.accepted) (rejected : u.rejected = s.rejected)
    (hand : u.inHand.length = s.inHand.length) : Balanced t u :=
  { sorted := by rw [counts]; exact b.sorted
    enqueued := by rw [counts, accepted]; exact b.enqueued
    rejected := by rw [counts, rejected]; exact b.rejected
    drained := by rw [counts]; exact b.drained
    confirmed := by rw [counts]; exact b.confirmed
    unconfirmed := by rw [counts]; exact b.unconfirmed
    balance := by rw [counts, accepted, hand]; exact b.balance }

-- An answer by itself is not counted.
theorem answer (b : Balanced t s) (n : Nat) (r : Response) : Balanced t (s.answer n r) := by
  have events : (s.answer n r).events = [(s.now, s.reply n r)] ++ s.events := rfl
  refine b.congr rfl ?_ ?_ rfl
  · rw [State.accepted_of_events events]
    simp only [List.filterMap_cons, State.accepted?_reply, List.filterMap_nil, List.nil_append]
  · rw [State.rejected_of_events events]
    simp only [List.filterMap_cons, State.rejected?_reply, List.filterMap_nil, List.nil_append]

theorem answerAll (b : Balanced t s) (r : Response) (tickets : List Nat) :
    Balanced t (s.answerAll r tickets) := by
  induction tickets generalizing s with
  | nil => exact b
  | cons n rest ih => exact ih (b.answer n r)

-- A caller that is turned away is counted.
theorem reject (b : Balanced t s) (n : Nat) : Balanced t (s.reject n) := by
  have rejected : (s.reject n).rejected = n :: s.rejected := rfl
  exact
    { sorted := Labelled.sorted_adjust b.sorted
      enqueued := (Labelled.value_count_other 1 _ (by decide)).trans b.enqueued
      rejected := by
        rw [rejected, List.length_cons, ← Counter.add_shown, ← b.rejected]
        exact Labelled.value_count_self "rejected" 1 b.sorted
      drained := (Labelled.value_count_other 1 _ (by decide)).trans b.drained
      confirmed := b.confirmed
      unconfirmed := b.unconfirmed
      balance := b.balance }

theorem rejectAll (b : Balanced t s) (tickets : List Nat) : Balanced t (s.rejectAll tickets) := by
  induction tickets generalizing s with
  | nil => exact b
  | cons n rest ih => exact ih (b.reject n)

theorem releaseWaiters (b : Balanced t s) : Balanced t s.releaseWaiters := by
  have nobody : Balanced t { s with waiters := [], granted := 0 } := b.congr rfl rfl rfl rfl
  exact nobody.rejectAll _

-- An entry that is stored is counted.
theorem store (b : Balanced t s) (e : Entry) : Balanced t (s.store e) := by
  have counts : (s.store e).outside.metrics.counts = s.outside.metrics.recordEnqueued.counts :=
    Metrics.counts_setQueueDepth _ _
  have accepted : (s.store e).accepted = e.ticket :: s.accepted := rfl
  have hand : (s.store e).inHand = s.inHand ++ [e.ticket] := by
    show s.stage.ticket?.toList ++ (s.buffer ++ [e]).map Entry.ticket = _
    rw [List.map_append, ← List.append_assoc]
    rfl
  exact
    { sorted := by rw [counts]; exact Labelled.sorted_adjust b.sorted
      enqueued := by
        rw [counts, accepted, List.length_cons, ← Counter.add_shown, ← b.enqueued]
        exact Labelled.value_count_self "enqueued" 1 b.sorted
      rejected := by
        rw [counts]
        exact (Labelled.value_count_other 1 _ (by decide)).trans b.rejected
      drained := by
        rw [counts]
        exact (Labelled.value_count_other 1 _ (by decide)).trans b.drained
      confirmed := by rw [counts]; exact b.confirmed
      unconfirmed := by rw [counts]; exact b.unconfirmed
      balance := by
        rw [counts, accepted, hand, List.length_cons, List.length_append, List.length_singleton,
          b.balance]
        rfl }

/-- A worker that goes away loses what it has in hand. -/
theorem leave (b : Balanced t s) (how : Ending) :
    Balanced { t with lost := t.lost + s.inHand.length } (s.leave how) := by
  have told := b.answerAll (.failed .missingResult) s.inHand
  have hand : (s.answerAll (.failed .missingResult) s.inHand).inHand = s.inHand := by
    rw [State.answerAll_eq]
    rfl
  have gone : Balanced { t with lost := t.lost + s.inHand.length }
      { s.answerAll (.failed .missingResult) s.inHand with
        lifecycle := .stopped, stage := .ended how, buffer := [] } :=
    { told with
      balance := by
        have balance := told.balance
        rw [hand] at balance
        refine balance.trans ?_
        show _ = _ + (t.lost + s.inHand.length) + 0
        dsimp only
        omega }
  exact gone.releaseWaiters.congr (Metrics.counts_setQueueDepth 0 _) rfl rfl rfl

/-- A worker that drains a closed queue counts what it answers. -/
theorem drain (b : Balanced t s) (stage : s.stage = .idle) (undrained : t.drained = 0) :
    Balanced { t with drained := s.buffer.length } s.drain := by
  have told := b.answerAll (.failed .queueClosed) (s.buffer.map Entry.ticket)
  rw [State.answerAll_eq] at told
  have counted : Balanced { t with drained := s.buffer.length }
      (({ s.answerAll (.failed .queueClosed) (s.buffer.map Entry.ticket) with
        buffer := [] }).measure fun m => m.recordDrained s.buffer.length) := by
    rw [State.answerAll_eq]
    exact
      { sorted := Labelled.sorted_adjust told.sorted
        enqueued := (Labelled.value_count_other _ _ (by decide)).trans told.enqueued
        rejected := (Labelled.value_count_other _ _ (by decide)).trans told.rejected
        drained := by
          refine (Labelled.value_count_self "drained" _ told.sorted).trans ?_
          rw [told.drained, undrained, Counter.add_ofNat (Nat.zero_le _)]
        confirmed := told.confirmed
        unconfirmed := told.unconfirmed
        balance := by
          refine told.balance.trans ?_
          simp only [State.inHand, State.measure, Surroundings.measure, Metrics.recordDrained,
            Metrics.counts, stage, undrained, Stage.ticket?, Option.toList_none, List.nil_append,
            List.length_map, List.map_nil, List.length_nil]
          omega }
  -- Nothing is left in hand when the worker goes away.
  have empty : (({ s.answerAll (.failed .queueClosed) (s.buffer.map Entry.ticket) with
      buffer := [] }).measure fun m => m.recordDrained s.buffer.length).inHand = [] := by
    rw [State.answerAll_eq]
    simp only [State.inHand, State.measure, stage]
    rfl
  have gone := counted.leave .finished
  rw [empty] at gone
  exact gone

-- The worker takes the oldest entry, which stays in hand.
theorem take {e : Entry} {rest : List Entry} (b : Balanced t s) (stage : s.stage = .idle)
    (buffer : s.buffer = e :: rest) : Balanced t (s.receive q e rest) := by
  have hand : (s.receive q e rest).inHand = s.inHand := by
    rcases s.receive_frame q e rest with ⟨frame, flight⟩
    unfold State.inHand
    rw [flight, show (s.receive q e rest).buffer = rest by rw [frame], stage, buffer]
    rfl
  have events : (s.receive q e rest).events = s.events := by
    rw [(s.receive_frame q e rest).1]
  refine b.congr ?_ (State.accepted_of_events (e := []) events)
    (State.rejected_of_events (e := []) events) (congrArg List.length hand)
  unfold State.receive
  cases e.send <;> exact Metrics.counts_setQueueDepth _ _

-- What counts a submission that is answered raises one of the exact numbers.
theorem departs {c : Metrics.Counts} (b : Balanced t s) (departs : Departs s.outside.metrics c) :
    ∃ t' : Tally, c.queueEvents = s.outside.metrics.counts.queueEvents ∧
      c.confirmed = t'.confirmed.shown ∧ c.unconfirmed = t'.unconfirmed.shown ∧
      t'.lost = t.lost ∧ t'.drained = t.drained ∧
      c.sendFailures + t'.confirmed.total + t'.unconfirmed.total =
        s.outside.metrics.counts.sendFailures + t.confirmed.total + t.unconfirmed.total + 1 := by
  cases departs with
  | failed =>
    refine ⟨t, rfl, b.confirmed, b.unconfirmed, rfl, rfl, ?_⟩
    show s.outside.metrics.counts.sendFailures + 1 + _ + _ = _
    omega
  | confirmed chain latency =>
    refine ⟨{ t with confirmed := t.confirmed.raise (toString chain) }, rfl, ?_, b.unconfirmed, rfl,
      rfl, ?_⟩
    · exact (congrArg (Labelled.count _ 1) b.confirmed).trans (Labelled.shown_raise _ _)
    · rw [Labelled.total_raise]
      show s.outside.metrics.counts.sendFailures + (_ + 1) + t.unconfirmed.total = _
      omega
  | unconfirmed chain =>
    refine ⟨{ t with unconfirmed := t.unconfirmed.raise (toString chain) }, rfl, b.confirmed, ?_,
      rfl, rfl, ?_⟩
    · exact (congrArg (Labelled.count _ 1) b.unconfirmed).trans (Labelled.shown_raise _ _)
    · rw [Labelled.total_raise]
      rfl

/-- A submission in flight that is answered is counted. -/
theorem isOver {n i : Nat} {o : Surroundings σ} {r : Response} (b : Balanced t s)
    (flight : s.stage.ticket? = some n) (departs : Departs s.outside.metrics o.metrics.counts) :
    ∃ t', Balanced t' ({ s.after i o with stage := .idle }.answer n r) ∧ t'.lost = t.lost ∧
      t'.drained = t.drained := by
  rcases b.departs departs with ⟨t', events, confirmed, unconfirmed, lost, drained, more⟩
  -- One submission fewer is in hand.
  have before : s.inHand.length = s.buffer.length + 1 := by
    rw [State.inHand, flight, List.length_append, List.length_map]
    exact Nat.add_comm _ _
  have after : ({ s.after i o with stage := .idle } : State σ).inHand.length = s.buffer.length :=
    List.length_map _
  have idle : Balanced t' { s.after i o with stage := .idle } :=
    { sorted := events ▸ b.sorted
      enqueued := events ▸ b.enqueued
      rejected := events ▸ b.rejected
      drained := by rw [drained, ← b.drained, ← events]; rfl
      confirmed := confirmed
      unconfirmed := unconfirmed
      balance := by
        have balance := b.balance
        rw [after, drained, lost]
        show s.accepted.length = t.drained + o.metrics.counts.sendFailures + _ + _ + _ + _
        omega }
  exact ⟨t', idle.answer n r, lost, drained⟩

/-- After a step there is a tally again, which adds what the step loses. Nothing is
    drained before the worker goes away. -/
def Onward (t : Tally) (s u : State σ) : Prop :=
  ∃ t', Balanced t' u ∧ t'.lost = t.lost + s.lostTo u ∧
    (u.stage.ending? = none → t'.drained = 0)

-- A step after which the worker is as it was loses nothing.
theorem stays (b : Balanced t u) (undrained : s.stage.ending? = none → t.drained = 0)
    (same : u.stage.ending? = s.stage.ending?) : Onward t s u := by
  refine ⟨t, b, ?_, fun alive => undrained (same.symm.trans alive)⟩
  rw [State.lostTo_of_stage same]
  rfl

-- A worker that goes away early loses what it has in hand.
theorem leaves {v : State σ} {how : Ending} (b : Balanced t v) (hand : v.inHand = s.inHand)
    (alive : s.stage.ending? = none) (early : how ≠ .finished) : Onward t s (v.leave how) := by
  have ended : (v.leave how).stage.ending? = some how := by
    rw [(State.leave_cleared how v).2]
    rfl
  refine ⟨_, b.leave how, ?_, fun still => ?_⟩
  · rw [State.lostTo_of_left alive ended early, ← hand]
  · exact absurd (ended.symm.trans still) (Option.some_ne_none how)

-- A worker that finishes loses nothing.
theorem finishes {t' : Tally} (b : Balanced t' u) (same : t'.lost = t.lost)
    (ended : u.stage = .ended .finished) : Onward t s u := by
  have gone : u.stage.ending? = some .finished := by rw [ended]; rfl
  refine ⟨t', b, ?_, fun alive => absurd (gone.symm.trans alive) (Option.some_ne_none _)⟩
  rw [State.lostTo_of_finished gone, same]
  rfl

/-- Every step keeps the balance. -/
theorem kept (step : Step q s h u) (b : Balanced t s)
    (undrained : s.stage.ending? = none → t.drained = 0) : Onward t s u := by
  cases step with
  | start stage =>
    refine stays (b.congr rfl rfl rfl ?_) undrained (by rw [stage]; rfl)
    rw [State.inHand, State.inHand, stage]
    rfl
  | turnAway held shut =>
    have asked : Balanced t { s with asked := s.asked + 1 } := b.congr rfl rfl rfl rfl
    exact (asked.reject s.asked).stays undrained rfl
  | accept send held opened alive room =>
    have asked : Balanced t { s with asked := s.asked + 1 } := b.congr rfl rfl rfl rfl
    exact (asked.store ⟨s.asked, send⟩).stays undrained rfl
  | lineUp send held opened alive full => exact stays (b.congr rfl rfl rfl rfl) undrained rfl
  | leaveLine ticket => exact stays (b.congr rfl rfl rfl rfl) undrained rfl
  | depart ticket absent => exact stays (b.congr rfl rfl rfl rfl) undrained rfl
  | close held running =>
    have shut : Balanced t { s with lifecycle := .stopping, shutdown := true } :=
      b.congr rfl rfl rfl rfl
    rcases s.close_shape with ⟨m, shape⟩
    refine shut.releaseWaiters.stays undrained ?_
    rw [shape]
    rfl
  | dropHandle => exact stays (b.congr rfl rfl rfl rfl) undrained rfl
  | lose alive =>
    refine b.leaves rfl alive ?_
    unfold State.loss
    split <;> exact Ending.noConfusion
  | @store front e rest granted waiters =>
    have placed : Balanced t { s with waiters := front ++ rest, granted := s.granted - 1 } :=
      b.congr rfl rfl rfl rfl
    exact (placed.store e).stays undrained rfl
  | @take e rest stage opened buffer =>
    refine (b.take stage buffer).stays undrained ?_
    rw [Stage.ending?_of_ticket? (s.receive_frame q e rest).2, stage]
    rfl
  | @goesOn n i _ o stage _ flight acts calm =>
    -- The submission in flight is the same.
    have hand : ({ s.after i o with stage := stage } : State σ).inHand = s.inHand := by
      show stage.ticket?.toList ++ s.buffer.map Entry.ticket = _
      rw [State.inHand, flight.ticket?_on, flight.ticket?]
    refine stays (b.congr flight.counts rfl rfl (congrArg List.length hand)) undrained ?_
    rw [Stage.ending?_of_ticket? flight.ticket?]
    exact Stage.ending?_of_ticket? flight.ticket?_on
  | isOver flight calm =>
    rcases b.isOver flight.ticket? flight.counts with ⟨t', balanced, lost, drained⟩
    have alive := Stage.ending?_of_ticket? flight.ticket?
    refine ⟨t', balanced, ?_, fun _ => drained.trans (undrained alive)⟩
    rw [State.lostTo_of_alive rfl, lost]
    rfl
  | @crashes n i _ o _ flight calm =>
    have after : Balanced t (s.after i o) := b.congr flight.counts rfl rfl rfl
    exact after.leaves rfl (Stage.ending?_of_ticket? flight.ticket?) Ending.noConfusion
  | drain stage closed =>
    have alive : s.stage.ending? = none := by rw [stage]; rfl
    refine (b.drain stage (undrained alive)).finishes rfl ?_
    unfold State.drain
    exact (State.leave_cleared .finished _).2
  | finish stage opened buffer held waiters =>
    have empty : s.inHand = [] := by
      rw [State.inHand, stage, buffer]
      rfl
    refine (b.leave .finished).finishes ?_ (State.leave_cleared .finished s).2
    rw [empty]
    rfl
  | wait limit later granted rest => exact stays (b.congr rfl rfl rfl rfl) undrained rfl

/-- A run keeps the balance, and adds what it loses. -/
theorem play (q : Setup σ) (moves : List Move) (b : Balanced t s)
    (undrained : s.stage.ending? = none → t.drained = 0) :
    ∃ t', Balanced t' (s.play q moves) ∧ t'.lost = t.lost + s.lost q moves := by
  induction moves generalizing s t with
  | nil => exact ⟨t, b, rfl⟩
  | cons m moves ih =>
    rcases Step.of_move q m s with ⟨same, -⟩ | step
    · rcases ih b undrained with ⟨t', balanced, lost⟩
      refine ⟨t', ?_, ?_⟩
      · show Balanced t' ((s.move q m).play q moves)
        rw [same]
        exact balanced
      · rw [State.lost, same, State.lostTo_of_stage rfl, Nat.zero_add]
        exact lost
    · rcases b.kept step undrained with ⟨t', balanced, more, still⟩
      rcases ih balanced still with ⟨t'', final, lost⟩
      refine ⟨t'', final, ?_⟩
      rw [lost, more, State.lost, Nat.add_assoc]

end Balanced

/-- In every run the counters balance. A tally beside them is exact; the counters
    show it, and as long as they have not stopped they balance themselves: what
    was accepted was drained, failed to be sent, was confirmed or unconfirmed, was
    lost with the worker, is in flight or is stored. -/
theorem counters_conserved (q : Setup σ) (world : σ) (moves : List Move) :
    let start := State.fresh (.fresh world)
    let s := start.play q moves
    let m := s.outside.metrics
    (∃ t, Balanced t s ∧ t.lost = start.lost q moves) ∧
    (s.rejected.length ≤ Counter.limit →
      m.queueEvents.value "rejected" = s.rejected.length) ∧
    (s.accepted.length ≤ Counter.limit →
      m.queueEvents.value "enqueued" = s.accepted.length ∧
      m.queueEvents.value "enqueued" =
        m.queueEvents.value "drained" + m.sendFailures + m.confirmed.total +
          m.unconfirmed.total + start.lost q moves +
          (if s.stage.ticket?.isSome then 1 else 0) + s.buffer.length) := by
  intro start s m
  rcases (Balanced.fresh world).play q moves (fun _ => rfl) with ⟨t, b, lost⟩
  rw [Nat.zero_add] at lost
  refine ⟨⟨t, b, lost⟩, fun small => ?_, fun small => ?_⟩
  · exact b.rejected.trans (Counter.shown_eq small)
  · have balance : s.accepted.length = t.drained + m.sendFailures + t.confirmed.total +
        t.unconfirmed.total + t.lost + s.inHand.length := b.balance
    have enqueued : m.queueEvents.value "enqueued" = s.accepted.length :=
      b.enqueued.trans (Counter.shown_eq small)
    have drained : m.queueEvents.value "drained" = t.drained :=
      b.drained.trans (Counter.add_ofNat (by omega))
    have confirmed : m.confirmed = t.confirmed :=
      b.confirmed.trans (Labelled.shown_eq (by omega))
    have unconfirmed : m.unconfirmed = t.unconfirmed :=
      b.unconfirmed.trans (Labelled.shown_eq (by omega))
    have hand : s.inHand.length = (if s.stage.ticket?.isSome then 1 else 0) + s.buffer.length := by
      rw [State.inHand, List.length_append, List.length_map]
      cases s.stage.ticket? <;> rfl
    refine ⟨enqueued, ?_⟩
    rw [enqueued, drained, confirmed, unconfirmed, ← lost, Nat.add_assoc, ← hand]
    exact balance

end Queue

end TxRelay
