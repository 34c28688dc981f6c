import TxRelay.Proofs.Queue.Answers
import TxRelay.Proofs.Queue.Readings

/-!
# What Counts as Confirmed

The counter of confirmed transactions and the number of latencies are raised when
a submission is answered as submitted. That is not the same as being observed: a
lookup that finds the transaction gone ends in such an answer, but so does a
shutdown, which ends the wait without one.

The difference is at most one. As long as the queue is open, the submissions that
were answered so are the ones that were observed. A shutdown finds at most one
submission in flight, and after its answer the worker takes no other.

## Main definitions

* `Queue.State.submitted`: The submissions on a chain answered as submitted.
* `Queue.observed`: The submissions on a chain found no longer pending.
* `Queue.Counted`: The metrics count the answers.
* `Queue.Observation`: How the answers and the observations differ.

## Theorems

* `Queue.Step.confirms`: What a step confirms.
* `Queue.Counted.kept`, `Queue.Observation.kept`: Every step keeps them.
* `Queue.confirmed_counts_answers`: What the metrics count, in every run.
* `Queue.confirmed_without_observation`: A transaction that counts as confirmed
  and was never looked up.
-/

namespace TxRelay

namespace Queue

variable {σ : Type} {q : Setup σ} {s t : State σ} {h : List (Nat × Happening)}

/-- Whether an answer says that a transaction was submitted on a chain. -/
def sentOn (chain : ChainId) : Response → Bool
  | .submitted tx => tx.chain == chain
  | .failed _ => false

/-- The submission on a chain that a lookup found no longer pending. -/
def Happening.observed? (chain : ChainId) : Happening → Option Nat
  | .heard n tx _ (.value false) => if tx.chain = chain then some n else none
  | _ => none

/-- The submissions on a chain that were answered as submitted, the latest
    first. -/
def State.submitted (chain : ChainId) (s : State σ) : List Nat :=
  ((s.events.filterMap fun e => e.2.answer?).filter fun p => sentOn chain p.2).map Prod.fst

/-- The submissions on a chain that a lookup found no longer pending, the latest
    first. -/
def observed (chain : ChainId) (h : List (Nat × Happening)) : List Nat :=
  h.filterMap fun x => x.2.observed? chain

section Told

variable (chain : ChainId)

theorem observed_append (g : List (Nat × Happening)) :
    observed chain (g ++ h) = observed chain g ++ observed chain h :=
  List.filterMap_append

theorem observed_toldAll (events : List (Nat × Event)) :
    observed chain (State.toldAll events) = [] := by
  unfold observed State.toldAll
  rw [List.filterMap_map, List.filterMap_eq_nil_iff]
  exact fun _ _ => rfl

theorem observed_didAll (acts : List (Nat × Act)) : observed chain (State.didAll acts) = [] := by
  unfold observed State.didAll
  rw [List.filterMap_map, List.filterMap_eq_nil_iff]
  exact fun _ _ => rfl

-- The submissions after more was told.
theorem submitted_of_events {e : List (Nat × Event)} (events : t.events = e ++ s.events) :
    t.submitted chain =
      ((e.filterMap fun e => e.2.answer?).filter fun p => sentOn chain p.2).map Prod.fst ++
        s.submitted chain := by
  unfold State.submitted
  rw [events, List.filterMap_append, List.filter_append, List.map_append]

-- Nobody was submitted when nobody was told so.
theorem submitted_of_failures {e : List (Nat × Event)} (events : t.events = e ++ s.events)
    (failures : ∀ x ∈ e, ∀ n tx, x.2.answer? ≠ some (n, .submitted tx)) :
    t.submitted chain = s.submitted chain := by
  rw [submitted_of_events chain events, List.filter_eq_nil_iff.mpr]
  · rfl
  · rintro ⟨n, r⟩ mem
    rcases List.mem_filterMap.mp mem with ⟨x, told, answer⟩
    cases r with
    | submitted tx => exact absurd answer (failures x told n tx)
    | failed f => exact Bool.noConfusion

-- What was answered as submitted was answered.
theorem submitted_sublist (s : State σ) : (s.submitted chain).Sublist s.answered := by
  have answered : s.answered = (s.events.filterMap fun e => e.2.answer?).map Prod.fst := by
    rw [List.map_filterMap]
    refine congrArg (fun f => s.events.filterMap f) (funext fun e => ?_)
    cases e.2 <;> rfl
  rw [answered]
  exact List.filter_sublist.map Prod.fst

end Told

/-- A step confirms nothing: it answers nobody as submitted and observes
    nothing. -/
structure Unconfirming (s t : State σ) (h : List (Nat × Happening)) : Prop where
  submitted : ∀ chain, t.submitted chain = s.submitted chain
  unseen : ∀ chain, observed chain h = []
  confirmed : t.outside.metrics.confirmed = s.outside.metrics.confirmed
  latency : t.outside.metrics.latency = s.outside.metrics.latency

/-- A step confirms a transaction: it answers the submission in flight as
    submitted, and has observed that the transaction is gone unless the queue was
    closed. -/
structure Confirming (s t : State σ) (h : List (Nat × Happening)) (n : Nat) (tx : Submitted) :
    Prop where
  flight : s.stage.ticket? = some n
  idle : t.stage.ticket? = none
  shutdown : t.shutdown = s.shutdown
  submitted : ∀ chain, t.submitted chain =
    if tx.chain = chain then n :: s.submitted chain else s.submitted chain
  seen : ∀ chain, observed chain h =
    if s.shutdown = false ∧ tx.chain = chain then [n] else []
  recorded : ∃ latency, t.outside.metrics = s.outside.metrics.recordConfirmed tx.chain latency

namespace Flight

variable {n i : Nat} {d : Option Happening} {o : Surroundings σ} {fate : Fate}

-- A step in flight that does not answer the submission as submitted observes
-- nothing.
theorem observed_other (flight : Flight q s n i d o fate)
    (unsubmitted : ∀ tx, fate ≠ .answered (.submitted tx)) (chain : ChainId) (j : Nat) :
    observed chain (d.toList.map fun x => (j, x)) = [] := by
  cases flight with
  | retries | failed | sendCrashed | sent | unpaced | asks | lookupCrashed | gaveUp => rfl
  | sentLate | abandoned | settled => exact absurd rfl (unsubmitted _)
  | @pending _ _ wait next outcome _ stage opened answer fire =>
    -- A lookup that finds the transaction gone ends the wait.
    rcases outcome with (_ | _) | f | text
    · rw [Confirmation.Wait.fire_settled answer] at fire
      exact absurd (congrArg Prod.fst fire) (by simp only [reduceCtorEq, not_false_eq_true])
    · rfl
    · rfl
    · rfl

-- A step in flight that answers the submission as submitted has observed it,
-- unless the queue was closed.
theorem observed_submitted {tx : Submitted} (flight : Flight q s n i d o (.answered (.submitted tx)))
    (chain : ChainId) (j : Nat) :
    observed chain (d.toList.map fun x => (j, x)) =
      if s.shutdown = false ∧ tx.chain = chain then [n] else [] := by
  cases flight with
  | sentLate returns closed =>
    rw [closed, if_neg (fun open_ => Bool.noConfusion open_.1)]
    rfl
  | abandoned stage closed =>
    rw [closed, if_neg (fun open_ => Bool.noConfusion open_.1)]
    rfl
  | @settled _ _ wait stage opened answer =>
    rw [opened]
    by_cases here : wait.tx.chain = chain
    · rw [if_pos ⟨rfl, here⟩]
      exact List.filterMap_cons_some (if_pos here)
    · rw [if_neg fun both => here both.2]
      exact List.filterMap_cons_none (if_neg here)

end Flight

namespace Unconfirming

-- A step that tells nobody anything.
theorem of_quiet (events : t.events = s.events) (unseen : ∀ chain, observed chain h = [])
    (confirmed : t.outside.metrics.confirmed = s.outside.metrics.confirmed)
    (latency : t.outside.metrics.latency = s.outside.metrics.latency) : Unconfirming s t h :=
  ⟨fun chain => submitted_of_events chain (e := []) events, unseen, confirmed, latency⟩

-- The worker goes away.
theorem of_leave (how : Ending) (f : Failure) (line hand : List Nat) {m : Metrics}
    (confirmed : m.confirmed = s.outside.metrics.confirmed)
    (latency : m.latency = s.outside.metrics.latency) :
    Unconfirming s
      ((s.cleared how (s.refusals line ++ s.replies (.failed f) hand)).measure fun _ => m)
      ((s.now, .left how) :: State.toldAll
        (s.refusals line ++ s.replies (.failed f) hand)) := by
  refine ⟨fun chain => submitted_of_failures chain rfl ?_, fun chain => observed_toldAll chain _,
    confirmed, latency⟩
  intro x mem n tx answer
  rcases List.mem_append.mp mem with refusal | reply
  · rcases List.mem_map.mp (List.mem_reverse.mp refusal) with ⟨m, -, rfl⟩
    exact absurd answer (by simp only [Event.answer?, reduceCtorEq, not_false_eq_true])
  · rcases List.mem_map.mp (List.mem_reverse.mp reply) with ⟨m, -, rfl⟩
    rw [State.answer?_reply] at answer
    exact absurd (Prod.ext_iff.mp (Option.some.inj answer)).2
      (by simp only [reduceCtorEq, not_false_eq_true])

end Unconfirming

namespace Step

-- A step in flight that does not answer the submission as submitted.
theorem unconfirming_of_flight {n i : Nat} {d : Option Happening} {o : Surroundings σ}
    {fate : Fate} (flight : Flight q s n i d o fate)
    (unsubmitted : ∀ tx, fate ≠ .answered (.submitted tx)) :
    o.metrics.confirmed = s.outside.metrics.confirmed ∧
      o.metrics.latency = s.outside.metrics.latency := by
  generalize written : o.metrics = m
  have records := flight.records
  rw [written] at records
  cases records with
  | confirmed tx latency => exact absurd rfl (unsubmitted tx)
  | other => exact ⟨rfl, rfl⟩

-- The submission in flight is answered.
theorem confirms_of_over {n i : Nat} {d : Option Happening} {o : Surroundings σ} {r : Response}
    (flight : Flight q s n i d o (.answered r)) :
    Unconfirming s ({ s.after i o with stage := .idle }.answer n r)
        ((max s.now i, .told (s.reply n r)) :: d.toList.map fun h => (max s.now i, h)) ∨
      ∃ tx, Confirming s ({ s.after i o with stage := .idle }.answer n r)
        ((max s.now i, .told (s.reply n r)) :: d.toList.map fun h => (max s.now i, h)) n tx := by
  have told (chain : ChainId) : ({ s.after i o with stage := .idle }.answer n r).submitted chain =
      ([(n, r)].filter fun p => sentOn chain p.2).map Prod.fst ++ s.submitted chain := by
    rw [submitted_of_events (s := s) (e := [(max s.now i, s.reply n r)]) chain rfl,
      List.filterMap_cons, State.answer?_reply]
    rfl
  rcases r with tx | f
  · refine Or.inr ⟨tx, flight.ticket?, rfl, rfl, fun chain => ?_,
      fun chain => flight.observed_submitted chain _, ?_⟩
    · rw [told]
      by_cases here : tx.chain = chain
      · have sent : sentOn chain (.submitted tx) = true := beq_iff_eq.mpr here
        rw [if_pos here, List.filter_cons, if_pos sent]
        rfl
      · have other : ¬sentOn chain (.submitted tx) = true := fun same => here (beq_iff_eq.mp same)
        rw [if_neg here, List.filter_cons, if_neg other]
        rfl
    · show ∃ latency, o.metrics = _
      generalize written : o.metrics = m
      have records := flight.records
      rw [written] at records
      cases records with
      | confirmed _ latency => exact ⟨latency, rfl⟩
      | other unsubmitted => exact absurd rfl (unsubmitted tx)
  · have unsubmitted (tx : Submitted) : Fate.answered (.failed f) ≠ .answered (.submitted tx) :=
      fun same => absurd (Fate.answered.inj same) (by simp only [reduceCtorEq, not_false_eq_true])
    rcases unconfirming_of_flight flight unsubmitted with ⟨confirmed, latency⟩
    refine Or.inl ⟨fun chain => ?_, fun chain => flight.observed_other unsubmitted chain _,
      confirmed, latency⟩
    rw [told]
    rfl

/-- What a step confirms. -/
theorem confirms (step : Step q s h t) :
    Unconfirming s t h ∨ ∃ n tx, Confirming s t h n tx := by
  cases step with
  | start | lineUp | leaveLine | depart | dropHandle | wait =>
    exact Or.inl (.of_quiet rfl (fun _ => rfl) rfl rfl)
  | turnAway => exact Or.inl ⟨fun _ => rfl, fun _ => rfl, rfl, rfl⟩
  | accept | store =>
    refine Or.inl ⟨fun _ => rfl, fun _ => rfl, ?_, ?_⟩
    · rw [State.metrics_store, Metrics.confirmed_setQueueDepth]
      rfl
    · rw [State.metrics_store, Metrics.latency_setQueueDepth]
      rfl
  | close held running =>
    rcases s.close_written with ⟨e, shape⟩
    rw [shape]
    refine Or.inl ⟨fun chain => ?_, fun chain => ?_, rfl, rfl⟩
    · refine submitted_of_failures (s := s) chain rfl fun x mem n tx answer => ?_
      rcases List.mem_map.mp (List.mem_reverse.mp mem) with ⟨m, -, rfl⟩
      exact absurd answer (by simp only [Event.answer?, reduceCtorEq, not_false_eq_true])
    · rw [observed_append, observed_toldAll]
      rfl
  | lose alive =>
    rcases s.leave_written s.loss with ⟨e, shape⟩
    rw [shape]
    exact Or.inl (.of_leave _ _ _ _ rfl rfl)
  | @take e rest stage opened buffer =>
    have written := s.metrics_receive q e rest
    refine Or.inl (.of_quiet (by rw [(s.receive_frame q e rest).1])
      (fun chain => observed_didAll chain _) ?_ ?_)
    · rw [written, Metrics.confirmed_setQueueDepth]
    · rw [written, Metrics.latency_setQueueDepth]
  | @goesOn n i d o stage as flight acts calm =>
    have unsubmitted (tx : Submitted) : Fate.on stage ≠ .answered (.submitted tx) :=
      Fate.noConfusion
    rcases unconfirming_of_flight flight unsubmitted with ⟨confirmed, latency⟩
    refine Or.inl (.of_quiet rfl (fun chain => ?_) confirmed latency)
    rw [observed_append, observed_didAll, flight.observed_other unsubmitted]
    rfl
  | isOver flight calm =>
    rcases confirms_of_over flight with quiet | ⟨tx, confirming⟩
    · exact Or.inl quiet
    · exact Or.inr ⟨_, tx, confirming⟩
  | @crashes n i d o text flight calm =>
    have unsubmitted (tx : Submitted) : Fate.crash text ≠ .answered (.submitted tx) :=
      Fate.noConfusion
    rcases unconfirming_of_flight flight unsubmitted with ⟨confirmed, latency⟩
    rcases (s.after i o).leave_written (.crashed text) with ⟨e, shape⟩
    rw [shape]
    have left := Unconfirming.of_leave (s := s.after i o)
      (m := { o.metrics with queueEvents := e, queueDepth := 0 }) (.crashed text) .missingResult
      s.inLine s.inHand rfl rfl
    refine Or.inl ⟨left.submitted, fun chain => ?_, left.confirmed.trans confirmed,
      left.latency.trans latency⟩
    rw [observed_append, flight.observed_other unsubmitted, List.append_nil]
    exact left.unseen chain
  | drain stage closed =>
    rcases s.drain_written (by rw [stage]; rfl) with ⟨e, shape⟩
    rw [shape]
    exact Or.inl (.of_leave _ _ _ _ rfl rfl)
  | finish stage opened buffer held waiters =>
    rcases s.leave_written .finished with ⟨e, shape⟩
    have nobody : s.refusals s.inLine ++ s.replies (.failed .missingResult) s.inHand = [] := by
      simp only [State.inLine, State.inHand, waiters, stage, buffer]
      rfl
    rw [shape]
    have left := Unconfirming.of_leave (s := s)
      (m := { s.outside.metrics with queueEvents := e, queueDepth := 0 }) .finished .missingResult
      s.inLine s.inHand rfl rfl
    rw [nobody] at left ⊢
    exact Or.inl left

-- A closed queue with nothing in flight has nothing in flight any more.
theorem free_of_closed (step : Step q s h t) (closed : s.shutdown = true)
    (free : s.stage.ticket? = none) : t.stage.ticket? = none := by
  have nothing {n i : Nat} {d : Option Happening} {o : Surroundings σ} {fate : Fate}
      (flight : Flight q s n i d o fate) : t.stage.ticket? = none := by
    rw [flight.ticket?] at free
    exact absurd free (by simp only [reduceCtorEq, not_false_eq_true])
  have gone {how : Ending} (u : State σ) : (u.leave how).stage.ticket? = none := by
    rw [(u.leave_cleared how).2]
    rfl
  cases step with
  | start => rfl
  | turnAway | accept | lineUp | leaveLine | depart | dropHandle | store | wait => exact free
  | close held running =>
    rcases s.close_shape with ⟨m, shape⟩
    rw [shape]
    exact free
  | lose => exact gone s
  | take stage opened buffer => exact absurd (opened.symm.trans closed) Bool.noConfusion
  | goesOn flight acts calm => exact nothing flight
  | isOver flight calm => rfl
  | crashes flight calm => exact gone _
  | drain => exact gone _
  | finish => exact gone s

end Step

/-- The metrics count the submissions that were answered as submitted. -/
structure Counted (s : State σ) : Prop where
  /-- The chains are in order. -/
  sorted : s.outside.metrics.confirmed.Sorted
  /-- The chains are in order. -/
  ordered : s.outside.metrics.latency.Sorted
  /-- Every such answer is counted. -/
  confirmed : ∀ chain : ChainId, s.outside.metrics.confirmed.value (toString chain) =
    Counter.shown (s.submitted chain).length
  /-- Every such answer has a latency. -/
  latency : ∀ chain : ChainId, s.outside.metrics.latency.counted (toString chain) =
    (s.submitted chain).length

namespace Counted

theorem fresh (world : σ) : Counted (State.fresh (.fresh world)) :=
  ⟨List.Pairwise.nil, List.Pairwise.nil, fun _ => rfl, fun _ => rfl⟩

-- One more answer is counted under its own chain.
theorem confirming {n : Nat} {tx : Submitted} (c : Counted s) (step : Confirming s t h n tx) :
    Counted t := by
  rcases step.recorded with ⟨latency, written⟩
  refine ⟨?_, ?_, fun chain => ?_, fun chain => ?_⟩
  · rw [written]
    exact Labelled.sorted_adjust c.sorted
  · rw [written]
    exact Labelled.sorted_adjust c.ordered
  · rw [written, step.submitted chain]
    by_cases here : tx.chain = chain
    · rw [if_pos here, ← here, List.length_cons, ← Counter.add_shown, ← c.confirmed]
      exact Labelled.value_count_self _ 1 c.sorted
    · rw [if_neg here, ← c.confirmed]
      exact Labelled.value_count_other 1 _ fun same => here (ChainId.toString_inj same).symm
  · rw [written, step.submitted chain]
    by_cases here : tx.chain = chain
    · rw [if_pos here, ← here, List.length_cons, ← c.latency]
      exact Labelled.counted_observe_self _ latency c.ordered
    · rw [if_neg here, ← c.latency]
      exact Labelled.counted_observe_other latency _ fun same =>
        here (ChainId.toString_inj same).symm

/-- Every step keeps the count. -/
theorem kept (step : Step q s h t) (c : Counted s) : Counted t := by
  rcases step.confirms with quiet | ⟨n, tx, confirming⟩
  · refine ⟨?_, ?_, fun chain => ?_, fun chain => ?_⟩
    · rw [quiet.confirmed]
      exact c.sorted
    · rw [quiet.latency]
      exact c.ordered
    · rw [quiet.confirmed, quiet.submitted]
      exact c.confirmed chain
    · rw [quiet.latency, quiet.submitted]
      exact c.latency chain
  · exact c.confirming confirming

end Counted

/-- The submissions on a chain that were answered as submitted are the ones that
    were observed, and at most one more, which was in flight at the shutdown. -/
inductive Observation (chain : ChainId) (c : Chronicle σ) : Prop where
  /-- All of them were observed. -/
  | all (same : c.state.submitted chain = observed chain c.history)
  /-- All but the last, which was answered after the shutdown. -/
  | butOne (n : Nat) (closed : c.state.shutdown = true) (free : c.state.stage.ticket? = none)
      (more : c.state.submitted chain = n :: observed chain c.history)

/-- Every step keeps the difference. -/
theorem Observation.kept {chain : ChainId} {c : Chronicle σ} (step : Step q c.state h t)
    (before : Observation chain c) : Observation chain ⟨t, h ++ c.history⟩ := by
  rcases step.confirms with quiet | ⟨n, tx, confirming⟩
  · have observed : observed chain (h ++ c.history) = observed chain c.history := by
      rw [observed_append, quiet.unseen]
      rfl
    cases before with
    | all same => exact .all ((quiet.submitted chain).trans (same.trans observed.symm))
    | butOne n closed free more =>
      refine .butOne n (step.closed_iff.mpr (Or.inl closed)) (step.free_of_closed closed free) ?_
      exact (quiet.submitted chain).trans (more.trans (congrArg (n :: ·) observed.symm))
  · cases before with
    | butOne m closed free more =>
      -- After the shutdown there is only one submission in flight to be answered.
      rw [confirming.flight] at free
      exact absurd free (by simp only [reduceCtorEq, not_false_eq_true])
    | all same =>
      have submitted := confirming.submitted chain
      have seen : observed chain (h ++ c.history) = _ := observed_append chain h
      rw [confirming.seen] at seen
      by_cases here : tx.chain = chain
      · rw [if_pos here, same] at submitted
        cases opened : c.state.shutdown with
        | false =>
          rw [if_pos ⟨opened, here⟩] at seen
          exact .all (submitted.trans seen.symm)
        | true =>
          rw [if_neg fun both => Bool.noConfusion (opened.symm.trans both.1)] at seen
          refine .butOne n (confirming.shutdown.trans opened) confirming.idle ?_
          exact submitted.trans (congrArg (n :: ·) seen.symm)
      · rw [if_neg here, same] at submitted
        rw [if_neg fun both => here both.2] at seen
        exact .all (submitted.trans seen.symm)

/-- What the metrics count as confirmed, in every run. On every chain the counter
    and the number of latencies are the number of submissions answered as
    submitted, each of them once. These are the submissions for which a lookup
    found the transaction no longer pending; after a shutdown there may be one
    more, answered as the last. -/
theorem confirmed_counts_answers (q : Setup σ) (world : σ) (moves : List Move) (chain : ChainId) :
    let c := (Chronicle.fresh world).play q moves
    let m := c.state.outside.metrics
    let submitted := c.state.submitted chain
    m.confirmed.value (toString chain) = Counter.shown submitted.length ∧
    m.latency.counted (toString chain) = submitted.length ∧
    submitted.Nodup ∧
    (submitted = observed chain c.history ∨
      (∃ i, (i, Happening.closed) ∈ c.history) ∧
        ∃ n, submitted = n :: observed chain c.history) := by
  intro c m submitted
  have state : c.state = (State.fresh (.fresh world)).play q moves :=
    Chronicle.state_play q moves (Chronicle.fresh world)
  have counted : Counted c.state := by
    rw [state]
    exact State.step_induction q (fun _ _ _ step before => before.kept step) moves _
      (Counted.fresh world)
  have ledger : Ledger c.state := by
    rw [state]
    exact Ledger.play q moves world
  have known : Recorded q c.state c.history := Recorded.play q moves world
  have observation : Observation chain c :=
    Chronicle.step_induction q (P := Observation chain)
      (fun _ _ _ step before => before.kept step) moves (Chronicle.fresh world) (.all rfl)
  refine ⟨counted.confirmed chain, counted.latency chain, ?_, ?_⟩
  · refine (submitted_sublist chain c.state).nodup (List.nodup_iff_count.mpr fun n => ?_)
    have balance := ledger.balance n
    have once := ledger.accepted_le n
    omega
  · cases observation with
    | all same => exact Or.inl same
    | butOne n closed free more => exact Or.inr ⟨known.closed.mp closed, n, more⟩

/-- A transaction counts as confirmed, with a latency, although no lookup was ever
    answered: the queue was shut down while its first lookup was under way. -/
theorem confirmed_without_observation :
    let c := (Chronicle.fresh ()).play Setup.mute
      [.call .start, .call (.enqueue (.direct (.after 0 (.value ⟨1, default⟩)))), .work, .work,
        .work, .call .stop, .work]
    c.state.outside.metrics.confirmed.value (toString (1 : ChainId)) = 1 ∧
    c.state.outside.metrics.latency.counted (toString (1 : ChainId)) = 1 ∧
    observed 1 c.history = [] := by
  decide

end Queue

end TxRelay
