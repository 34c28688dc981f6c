import TxRelay.Proofs.Queue.Step

/-!
# One Answer for Every Submission

A submission is asked for once. From then on it is in one place at a time: its
caller waits in line, or was turned away, or it was accepted; and an accepted
submission is stored, in flight, or answered. `Ledger` says this by counting
tickets. Every step keeps it, because a step moves a ticket from one place to
the next and to no other.

When the worker is gone nothing is stored or in flight any more, so by the same
count everything that was accepted is answered.

## Main definitions

* `Queue.Orderly`: What holds of the line, the buffer and the lifecycle between
  steps.
* `Queue.Ledger`: Where every ticket is.

## Theorems

* `Queue.Orderly.kept`, `Queue.Ledger.kept`: Every step keeps them.
* `Queue.exactly_one_answer`: Nothing is sent or answered twice, nothing that
  was turned away is sent, and nothing that was accepted is lost.
-/

namespace TxRelay

namespace Queue

variable {σ : Type}

namespace State

-- The tickets accepted after more was told.
theorem accepted_of_events {s t : State σ} {e : List (Nat × Event)}
    (events : t.events = e ++ s.events) :
    t.accepted = (e.filterMap fun e => e.2.accepted?) ++ s.accepted := by
  unfold accepted
  rw [events, List.filterMap_append]

-- The tickets turned away after more was told.
theorem rejected_of_events {s t : State σ} {e : List (Nat × Event)}
    (events : t.events = e ++ s.events) :
    t.rejected = (e.filterMap fun e => e.2.rejected?) ++ s.rejected := by
  unfold rejected
  rw [events, List.filterMap_append]

-- The tickets answered after more was told.
theorem answered_of_events {s t : State σ} {e : List (Nat × Event)}
    (events : t.events = e ++ s.events) :
    t.answered = (e.filterMap fun e => e.2.answered?) ++ s.answered := by
  unfold answered
  rw [events, List.filterMap_append]

-- The tickets sent after more was done.
theorem sent_of_acts {s t : State σ} {a : List (Nat × Act)}
    (acts : t.outside.acts = a ++ s.outside.acts) :
    t.sent = (a.filterMap fun a => a.2.sent?) ++ s.sent := by
  unfold sent Surroundings.sent
  rw [acts, List.filterMap_append]

-- An answer that is not heard is one to a caller who left.
theorem mem_departed_of_reply {s : State σ} {n m : Nat} {r r' : Response}
    (unheard : s.reply n r = .unheard m r') : m ∈ s.departed := by
  unfold reply at unheard
  by_cases left : s.departed.contains n = true
  · rw [if_pos left] at unheard
    rw [← (Event.unheard.inj unheard).1]
    exact List.contains_iff_mem.mp left
  · rw [if_neg left] at unheard
    exact absurd unheard (by simp only [reduceCtorEq, not_false_eq_true])

end State

/-- What holds of the line, the buffer and the lifecycle between steps. -/
structure Orderly (s : State σ) : Prop where
  /-- Places are handed to callers who wait for them. -/
  placed : s.granted ≤ s.waiters.length
  /-- After a shutdown nobody waits. -/
  closed : s.shutdown = true → s.waiters = []
  /-- Without a worker nothing is stored and nobody waits. -/
  gone : s.stage.ending? ≠ none → s.buffer = [] ∧ s.waiters = []
  /-- The queue is shown as stopped when the worker is gone. -/
  stopped : s.stage.ending? ≠ none → s.lifecycle = .stopped
  /-- While there is a worker, the queue runs until a shutdown is asked for. -/
  running : s.stage.ending? = none →
    s.lifecycle = if s.shutdown then .stopping else .running

namespace Orderly

variable {q : Setup σ} {s t : State σ} {h : List (Nat × Happening)}

-- A queue nobody used yet is in order.
theorem fresh (o : Surroundings σ) : Orderly (State.fresh o) :=
  ⟨Nat.le_refl 0, fun _ => rfl, fun _ => ⟨rfl, rfl⟩, fun gone => absurd rfl gone, fun _ => rfl⟩

-- A worker that goes away leaves the queue in order.
theorem leave (how : Ending) (s : State σ) : Orderly (s.leave how) := by
  rcases s.leave_shape how with ⟨m, shape⟩
  rw [shape]
  exact ⟨Nat.le_refl 0, fun _ => rfl, fun _ => ⟨rfl, rfl⟩, fun _ => rfl,
    fun alive => absurd alive (by simp only [State.measure, State.cleared, Stage.ending?,
      reduceCtorEq, not_false_eq_true])⟩

-- What a worker does that stays keeps the queue in order.
theorem of_stage (o : Orderly s) (alive : s.stage.ending? = none)
    (stays : t.stage.ending? = none) (granted : t.granted ≤ t.waiters.length)
    (waiters : s.waiters = [] → t.waiters = []) (shutdown : t.shutdown = s.shutdown)
    (lifecycle : t.lifecycle = s.lifecycle) : Orderly t := by
  refine ⟨granted, ?_, fun gone => absurd stays gone, fun gone => absurd stays gone, ?_⟩
  · rw [shutdown]
    exact fun closed => waiters (o.closed closed)
  · rw [shutdown, lifecycle]
    exact fun _ => o.running alive

/-- Every step keeps the queue in order. -/
theorem kept (step : Step q s h t) (o : Orderly s) : Orderly t := by
  cases step with
  | start stage => exact o.of_stage (by rw [stage]; rfl) rfl o.placed id rfl rfl
  | turnAway held shut => exact ⟨o.placed, o.closed, o.gone, o.stopped, o.running⟩
  | accept send held opened alive room => exact o.of_stage alive alive o.placed id rfl rfl
  | lineUp send held opened alive full =>
    refine ⟨?_, ?_, fun gone => absurd alive gone, o.stopped, o.running⟩
    · rw [List.length_append]
      exact Nat.le_trans o.placed (Nat.le_add_right _ _)
    · intro closed
      exact absurd (opened.symm.trans closed) Bool.noConfusion
  | leaveLine ticket =>
    refine ⟨Nat.min_le_right _ _, ?_, ?_, o.stopped, o.running⟩
    · intro closed
      rw [o.closed closed]
      rfl
    · intro gone
      refine ⟨(o.gone gone).1, ?_⟩
      rw [(o.gone gone).2]
      rfl
  | depart ticket absent => exact ⟨o.placed, o.closed, o.gone, o.stopped, o.running⟩
  | close held running =>
    rcases s.close_shape with ⟨m, shape⟩
    rw [shape]
    have alive : s.stage.ending? = none := by
      cases ending : s.stage.ending? with
      | none => rfl
      | some how =>
        rw [o.stopped (by rw [ending]; exact Option.some_ne_none how)] at running
        exact Lifecycle.noConfusion running
    exact ⟨Nat.le_refl 0, fun _ => rfl, fun gone => absurd alive gone,
      fun gone => absurd alive gone, fun _ => rfl⟩
  | dropHandle => exact ⟨o.placed, o.closed, o.gone, o.stopped, o.running⟩
  | lose alive => exact leave s.loss s
  | @store front e rest granted waiters =>
    have placed := o.placed
    rw [waiters, List.length_append, List.length_cons] at placed
    have filled : s.waiters ≠ [] := by simp [waiters]
    refine ⟨?_, fun closed => absurd (o.closed closed) filled,
      fun gone => absurd (o.gone gone).2 filled, o.stopped, o.running⟩
    show s.granted - 1 ≤ (front ++ rest).length
    rw [List.length_append]
    omega
  | take stage opened buffer =>
    rename_i e rest
    rcases s.receive_frame q e rest with ⟨frame, flight⟩
    have stays := Stage.ending?_of_ticket? flight
    refine o.of_stage (by rw [stage]; rfl) stays ?_ ?_ ?_ ?_
    · rw [frame]
      exact Nat.min_le_right _ _
    · rw [frame]
      exact id
    · rw [frame]
    · rw [frame]
  | goesOn flight acts calm =>
    exact o.of_stage (Stage.ending?_of_ticket? flight.ticket?)
      (Stage.ending?_of_ticket? flight.ticket?_on) o.placed id rfl rfl
  | isOver flight calm =>
    exact o.of_stage (Stage.ending?_of_ticket? flight.ticket?) rfl o.placed id rfl rfl
  | crashes flight calm => exact leave _ _
  | drain stage closed => exact leave .finished _
  | finish stage opened buffer held waiters => exact leave .finished s
  | wait limit later granted rest => exact ⟨o.placed, o.closed, o.gone, o.stopped, o.running⟩

-- After a shutdown nobody is handed a place.
theorem granted_of_closed (o : Orderly s) (closed : s.shutdown = true) : s.granted = 0 := by
  have placed := o.placed
  rw [o.closed closed] at placed
  exact Nat.le_zero.mp placed

-- Every run keeps the queue in order.
theorem play (q : Setup σ) (moves : List Move) (o : Surroundings σ) :
    Orderly ((State.fresh o).play q moves) :=
  State.step_induction q (fun _ _ _ step before => before.kept step) moves _ (fresh o)

end Orderly

/-- Where every ticket is. -/
structure Ledger (s : State σ) : Prop where
  /-- What was accepted is stored, in flight or answered. -/
  balance : ∀ n, s.accepted.count n = s.inHand.count n + s.answered.count n
  /-- A ticket is given out once, and then is accepted, turned away or waits in
      line. -/
  once : ∀ n, s.accepted.count n + s.rejected.count n + s.inLine.count n ≤
    if n < s.asked then 1 else 0
  /-- What was sent was accepted, and is not stored any more. -/
  taken : ∀ n, s.sent.count n + (s.buffer.map Entry.ticket).count n ≤ s.accepted.count n
  /-- Only callers who left do not hear their answers. -/
  silent : ∀ i n r, (i, Event.unheard n r) ∈ s.events → n ∈ s.departed

namespace Ledger

variable {q : Setup σ} {s t : State σ} {h : List (Nat × Happening)}

-- Nobody asked yet.
theorem fresh (world : σ) : Ledger (State.fresh (.fresh world)) :=
  ⟨fun _ => rfl, fun _ => Nat.zero_le _, fun _ => Nat.le_refl 0,
    fun _ _ _ mem => absurd mem List.not_mem_nil⟩

-- A step that tells nobody anything and begins no send operation.
theorem of_quiet (l : Ledger s) (events : t.events = s.events) (sent : t.sent = s.sent)
    (hand : t.inHand = s.inHand) (buffer : t.buffer = s.buffer)
    (line : ∀ n, t.inLine.count n ≤ s.inLine.count n) (asked : t.asked = s.asked)
    (departed : s.departed ⊆ t.departed) : Ledger t := by
  have accepted : t.accepted = s.accepted := State.accepted_of_events (e := []) events
  have rejected : t.rejected = s.rejected := State.rejected_of_events (e := []) events
  have answered : t.answered = s.answered := State.answered_of_events (e := []) events
  refine ⟨?_, ?_, ?_, ?_⟩
  · rw [accepted, hand, answered]
    exact l.balance
  · intro n
    rw [accepted, rejected, asked]
    have once := l.once n
    have fewer := line n
    omega
  · rw [sent, buffer, accepted]
    exact l.taken
  · rw [events]
    exact fun i n r mem => departed (l.silent i n r mem)

-- Other surroundings and a later instant change nothing, unless a send
-- operation began.
theorem after {i : Nat} {o : Surroundings σ} (l : Ledger s) (sent : o.sent = s.sent) :
    Ledger (s.after i o) :=
  l.of_quiet rfl sent rfl rfl (fun _ => Nat.le_refl _) rfl (List.Subset.refl _)

-- A ticket that was not given out yet is nowhere.
theorem unused (l : Ledger s) :
    s.accepted.count s.asked = 0 ∧ s.rejected.count s.asked = 0 ∧ s.inLine.count s.asked = 0 := by
  have once := l.once s.asked
  rw [if_neg (Nat.lt_irrefl s.asked)] at once
  omega

-- A caller is turned away.
theorem turnAway (l : Ledger s) : Ledger ({ s with asked := s.asked + 1 }.reject s.asked) := by
  refine ⟨l.balance, ?_, l.taken, ?_⟩
  · intro n
    have once := l.once n
    show s.accepted.count n + (s.asked :: s.rejected).count n + s.inLine.count n ≤
      if n < s.asked + 1 then 1 else 0
    rw [List.count_cons]
    -- The new ticket was nowhere, and the others stay where they are.
    by_cases new : n = s.asked
    · subst new
      rcases l.unused with ⟨accepted, rejected, line⟩
      rw [accepted, rejected, line, if_pos (Nat.lt_succ_self s.asked)]
      split <;> omega
    · rw [if_neg (by rw [beq_iff_eq]; exact fun same => new same.symm)]
      split at once <;> split <;> omega
  · intro i n r mem
    rcases List.mem_cons.mp mem with first | mem
    · exact absurd first (by simp only [Prod.mk.injEq, reduceCtorEq, and_false, not_false_eq_true])
    · exact l.silent i n r mem

-- A caller who has no entry with the queue yet has its entry stored.
theorem stored {e : Entry} (l : Ledger s) (t : State σ) (events : t.events = s.events)
    (outside : t.outside = s.outside) (stage : t.stage = s.stage) (buffer : t.buffer = s.buffer)
    (departed : t.departed = s.departed)
    (room : ∀ n, s.accepted.count n + (if e.ticket = n then 1 else 0) + s.rejected.count n +
      t.inLine.count n ≤ if n < t.asked then 1 else 0) : Ledger (t.store e) := by
  have accepted : (t.store e).accepted = e.ticket :: s.accepted :=
    State.accepted_of_events (s := s) (e := [(t.now, .accepted e.ticket)])
      (congrArg (_ :: ·) events)
  have rejected : (t.store e).rejected = s.rejected :=
    State.rejected_of_events (s := s) (e := [(t.now, .accepted e.ticket)])
      (congrArg (_ :: ·) events)
  have answered : (t.store e).answered = s.answered :=
    State.answered_of_events (s := s) (e := [(t.now, .accepted e.ticket)])
      (congrArg (_ :: ·) events)
  have sent : (t.store e).sent = s.sent :=
    (Surroundings.sent_measure _ t.outside).trans (congrArg Surroundings.sent outside)
  have tickets : (t.store e).buffer.map Entry.ticket =
      s.buffer.map Entry.ticket ++ [e.ticket] := by
    show (t.buffer ++ [e]).map Entry.ticket = _
    rw [buffer, List.map_append, List.map_singleton]
  have hand : (t.store e).inHand = s.inHand ++ [e.ticket] := by
    unfold State.inHand
    rw [tickets, show (t.store e).stage = s.stage from stage, List.append_assoc]
  refine ⟨?_, ?_, ?_, ?_⟩
  · intro n
    have balance := l.balance n
    rw [accepted, hand, answered, List.count_append, List.count_cons, List.count_singleton]
    omega
  · intro n
    have few := room n
    show (t.store e).accepted.count n + (t.store e).rejected.count n + t.inLine.count n ≤
      if n < t.asked then 1 else 0
    rw [accepted, rejected, List.count_cons]
    simp only [beq_iff_eq]
    omega
  · intro n
    have taken := l.taken n
    rw [sent, tickets, accepted, List.count_append, List.count_singleton, List.count_cons]
    omega
  · intro i n r mem
    show n ∈ t.departed
    rw [departed]
    rcases List.mem_cons.mp mem with first | mem
    · exact absurd first (by simp only [Prod.mk.injEq, reduceCtorEq, and_false, not_false_eq_true])
    · rw [events] at mem
      exact l.silent i n r mem

-- A caller finds a place.
theorem accept (send : Send) (l : Ledger s) :
    Ledger ({ s with asked := s.asked + 1 }.store ⟨s.asked, send⟩) := by
  refine l.stored { s with asked := s.asked + 1 } rfl rfl rfl rfl rfl ?_
  intro n
  have once := l.once n
  show s.accepted.count n + (if s.asked = n then 1 else 0) + s.rejected.count n +
    s.inLine.count n ≤ if n < s.asked + 1 then 1 else 0
  by_cases new : s.asked = n
  · subst new
    rcases l.unused with ⟨accepted, rejected, line⟩
    exact Nat.le_of_eq
      (by rw [accepted, rejected, line, if_pos rfl, if_pos (Nat.lt_succ_self s.asked)])
  · rw [if_neg new]
    split at once <;> split <;> omega

-- One of those in line stores its entry.
theorem store {front : List Entry} {e : Entry} {rest : List Entry} (l : Ledger s)
    (waiters : s.waiters = front ++ e :: rest) :
    Ledger (State.store e { s with waiters := front ++ rest, granted := s.granted - 1 }) := by
  refine l.stored { s with waiters := front ++ rest, granted := s.granted - 1 }
    rfl rfl rfl rfl rfl ?_
  intro n
  have once := l.once n
  have line : s.inLine.count n = ((front ++ rest).map Entry.ticket).count n +
      if e.ticket = n then 1 else 0 := by
    unfold State.inLine
    rw [waiters, List.map_append, List.map_append, List.map_cons, List.count_append,
      List.count_append, List.count_cons]
    simp only [beq_iff_eq]
    omega
  show s.accepted.count n + (if e.ticket = n then 1 else 0) + s.rejected.count n +
    ((front ++ rest).map Entry.ticket).count n ≤ if n < s.asked then 1 else 0
  omega

-- A caller waits for a place.
theorem lineUp (send : Send) (l : Ledger s) :
    Ledger { s with asked := s.asked + 1, waiters := s.waiters ++ [⟨s.asked, send⟩] } := by
  refine ⟨l.balance, ?_, l.taken, l.silent⟩
  intro n
  have once := l.once n
  show s.accepted.count n + s.rejected.count n +
    ((s.waiters ++ [Entry.mk s.asked send]).map Entry.ticket).count n ≤
      if n < s.asked + 1 then 1 else 0
  rw [List.map_append, List.count_append, List.map_singleton, List.count_singleton]
  unfold State.inLine at once
  by_cases new : s.asked = n
  · subst new
    rcases l.unused with ⟨accepted, rejected, line⟩
    unfold State.inLine at line
    rw [accepted, rejected, line, if_pos (Nat.lt_succ_self s.asked)]
    split <;> omega
  · rw [if_neg (by rw [beq_iff_eq]; exact new)]
    split at once <;> split <;> omega

-- The worker takes the oldest entry.
theorem take {e : Entry} {rest : List Entry} (l : Ledger s) (idle : s.stage = .idle)
    (buffer : s.buffer = e :: rest) : Ledger (s.receive q e rest) := by
  rcases s.receive_frame q e rest with ⟨frame, flight⟩
  have hand : (s.receive q e rest).inHand = s.inHand := by
    unfold State.inHand
    rw [flight, show (s.receive q e rest).buffer = rest by rw [frame], idle, buffer]
    rfl
  have sent : (s.receive q e rest).sent = e.ticket :: s.sent := by
    refine (State.sent_of_acts (Step.acts_receive q e rest s)).trans ?_
    unfold Entry.opening
    cases e.send <;> rfl
  refine ⟨?_, ?_, ?_, ?_⟩
  · rw [hand, frame]
    exact l.balance
  · rw [frame]
    exact l.once
  · -- The ticket leaves the buffer when its send operation begins.
    intro n
    have taken := l.taken n
    rw [buffer, List.map_cons, List.count_cons] at taken
    rw [sent, List.count_cons, frame]
    show s.sent.count n + _ + (rest.map Entry.ticket).count n ≤ s.accepted.count n
    omega
  · rw [frame]
    exact l.silent

-- The submission in flight is answered.
theorem isOver {n : Nat} {r : Response} (l : Ledger s) (flight : s.stage.ticket? = some n) :
    Ledger ({ s with stage := .idle }.answer n r) := by
  have events : ({ s with stage := .idle }.answer n r).events =
      [(s.now, s.reply n r)] ++ s.events := rfl
  have accepted : ({ s with stage := .idle }.answer n r).accepted = s.accepted := by
    rw [State.accepted_of_events events]
    simp only [List.filterMap_cons, State.accepted?_reply, List.filterMap_nil, List.nil_append]
  have rejected : ({ s with stage := .idle }.answer n r).rejected = s.rejected := by
    rw [State.rejected_of_events events]
    simp only [List.filterMap_cons, State.rejected?_reply, List.filterMap_nil, List.nil_append]
  have answered : ({ s with stage := .idle }.answer n r).answered = n :: s.answered := by
    rw [State.answered_of_events events]
    simp only [List.filterMap_cons, State.answered?_reply, List.filterMap_nil, List.cons_append,
      List.nil_append]
  have hand : s.inHand = n :: ({ s with stage := .idle }.answer n r).inHand := by
    unfold State.inHand
    rw [flight]
    rfl
  refine ⟨?_, ?_, ?_, ?_⟩
  · intro m
    have balance := l.balance m
    rw [hand, List.count_cons] at balance
    rw [accepted, answered, List.count_cons]
    omega
  · rw [accepted, rejected]
    exact l.once
  · rw [accepted]
    exact l.taken
  · intro i m r' mem
    rw [events] at mem
    rcases List.mem_append.mp mem with first | mem
    · exact State.mem_departed_of_reply (Prod.ext_iff.mp (List.mem_singleton.mp first)).2.symm
    · exact l.silent i m r' mem

-- The worker goes away, everything in hand is answered and everybody in line is
-- turned away.
theorem cleared (how : Ending) (r : Response) (m : Metrics) (l : Ledger s) :
    Ledger ((s.cleared how (s.refusals s.inLine ++ s.replies r s.inHand)).measure fun _ => m) := by
  have events : ((s.cleared how (s.refusals s.inLine ++ s.replies r s.inHand)).measure
      fun _ => m).events = (s.refusals s.inLine ++ s.replies r s.inHand) ++ s.events := rfl
  refine ⟨?_, ?_, ?_, ?_⟩
  · intro n
    rw [State.accepted_of_events events, State.answered_of_events events, List.filterMap_append,
      List.filterMap_append, State.accepted?_refusals, State.accepted?_replies,
      State.answered?_refusals, State.answered?_replies, List.nil_append, List.nil_append,
      List.nil_append, List.count_append, List.count_reverse, l.balance n]
    exact (Nat.zero_add _).symm
  · intro n
    have once := l.once n
    rw [State.accepted_of_events events, State.rejected_of_events events, List.filterMap_append,
      List.filterMap_append, State.accepted?_refusals, State.accepted?_replies,
      State.rejected?_refusals, State.rejected?_replies, List.nil_append, List.nil_append,
      List.append_nil, List.count_append, List.count_reverse]
    show s.accepted.count n + (s.inLine.count n + s.rejected.count n) + 0 ≤
      if n < s.asked then 1 else 0
    omega
  · intro n
    have taken := l.taken n
    rw [State.accepted_of_events events, List.filterMap_append, State.accepted?_refusals,
      State.accepted?_replies, List.nil_append, List.nil_append]
    show s.sent.count n + 0 ≤ s.accepted.count n
    omega
  · intro i n r' mem
    rw [events] at mem
    rcases List.mem_append.mp mem with told | mem
    · rcases List.mem_append.mp told with refusal | reply
      · rcases List.mem_map.mp (List.mem_reverse.mp refusal) with ⟨k, -, same⟩
        exact absurd (Prod.ext_iff.mp same).2
          (by simp only [reduceCtorEq, not_false_eq_true])
      · rcases List.mem_map.mp (List.mem_reverse.mp reply) with ⟨k, -, same⟩
        exact State.mem_departed_of_reply (Prod.ext_iff.mp same).2
    · exact l.silent i n r' mem

-- The worker goes away and leaves answers missing.
theorem leave (how : Ending) (l : Ledger s) : Ledger (s.leave how) := by
  rcases s.leave_shape how with ⟨m, shape⟩
  rw [shape]
  exact l.cleared how _ m

-- The worker of a closed queue answers everything and goes away.
theorem drain (l : Ledger s) (idle : s.stage = .idle) : Ledger s.drain := by
  have free : s.stage.ticket? = none := by rw [idle]; rfl
  rcases s.drain_shape free with ⟨m, shape⟩
  have hand : s.buffer.map Entry.ticket = s.inHand := by
    unfold State.inHand
    rw [free]
    rfl
  rw [shape, hand]
  exact l.cleared .finished _ m

-- A shutdown is asked for.
theorem close (l : Ledger s) :
    Ledger { s with lifecycle := .stopping, shutdown := true }.releaseWaiters := by
  rcases s.close_shape with ⟨m, shape⟩
  have events : (s.shut.measure fun _ => m).events = s.refusals s.inLine ++ s.events := rfl
  have accepted : (s.shut.measure fun _ => m).accepted = s.accepted := by
    rw [State.accepted_of_events events, State.accepted?_refusals, List.nil_append]
  have answered : (s.shut.measure fun _ => m).answered = s.answered := by
    rw [State.answered_of_events events, State.answered?_refusals, List.nil_append]
  rw [shape]
  refine ⟨?_, ?_, ?_, ?_⟩
  · rw [accepted, answered]
    exact l.balance
  · intro n
    have once := l.once n
    rw [accepted, State.rejected_of_events events, State.rejected?_refusals, List.count_append,
      List.count_reverse]
    show s.accepted.count n + (s.inLine.count n + s.rejected.count n) + 0 ≤
      if n < s.asked then 1 else 0
    omega
  · rw [accepted]
    exact l.taken
  · intro i n r' mem
    rw [events] at mem
    rcases List.mem_append.mp mem with refusal | mem
    · rcases List.mem_map.mp (List.mem_reverse.mp refusal) with ⟨k, -, same⟩
      exact absurd (Prod.ext_iff.mp same).2 (by simp only [reduceCtorEq, not_false_eq_true])
    · exact l.silent i n r' mem

-- A step in flight begins no send operation.
theorem sent_of_flight {n i : Nat} {d : Option Happening} {o : Surroundings σ} {fate : Fate}
    (flight : Flight q s n i d o fate) : o.sent = s.sent := by
  unfold State.sent Surroundings.sent
  rcases flight.acts with same | ⟨a, other, more⟩
  · rw [same]
  · rw [more, List.filterMap_cons]
    dsimp only
    rw [other]

/-- Every step keeps the ledger. -/
theorem kept (step : Step q s h t) (l : Ledger s) : Ledger t := by
  cases step with
  | start stage =>
    refine l.of_quiet rfl rfl ?_ rfl (fun _ => Nat.le_refl _) rfl (List.Subset.refl _)
    unfold State.inHand
    rw [stage]
    rfl
  | turnAway held shut => exact l.turnAway
  | accept send held opened alive room => exact l.accept send
  | lineUp send held opened alive full => exact l.lineUp send
  | leaveLine ticket =>
    refine l.of_quiet rfl rfl rfl rfl ?_ rfl (List.Subset.refl _)
    exact fun n => (List.filter_sublist.map Entry.ticket).count_le n
  | depart ticket absent =>
    exact l.of_quiet rfl rfl rfl rfl (fun _ => Nat.le_refl _) rfl (List.subset_cons_self _ _)
  | close held running => exact l.close
  | dropHandle =>
    exact l.of_quiet rfl rfl rfl rfl (fun _ => Nat.le_refl _) rfl (List.Subset.refl _)
  | lose alive => exact l.leave s.loss
  | store granted waiters => exact l.store waiters
  | take stage opened buffer => exact l.take stage buffer
  | goesOn flight acts calm =>
    -- The submission in flight is the same, so nothing moved.
    rename_i stage _
    refine l.of_quiet rfl (sent_of_flight flight) ?_ rfl (fun _ => Nat.le_refl _) rfl
      (List.Subset.refl _)
    unfold State.inHand
    rw [flight.ticket?]
    show stage.ticket?.toList ++ _ = _
    rw [flight.ticket?_on]
    rfl
  | isOver flight calm => exact (l.after (sent_of_flight flight)).isOver flight.ticket?
  | crashes flight calm => exact (l.after (sent_of_flight flight)).leave _
  | drain stage closed => exact l.drain stage
  | finish stage opened buffer held waiters => exact l.leave .finished
  | wait limit later granted rest =>
    exact l.of_quiet rfl rfl rfl rfl (fun _ => Nat.le_refl _) rfl (List.Subset.refl _)

-- Every run keeps the ledger.
theorem play (q : Setup σ) (moves : List Move) (world : σ) :
    Ledger ((State.fresh (.fresh world)).play q moves) :=
  State.step_induction q (fun _ _ _ step before => before.kept step) moves _ (fresh world)

-- What is in no place twice was accepted once.
theorem accepted_le (l : Ledger s) (n : Nat) : s.accepted.count n ≤ 1 := by
  have once := l.once n
  split at once <;> omega

-- Without a worker everything that was accepted was answered, and whoever did
-- not leave heard it.
theorem heard (l : Ledger s) (o : Orderly s) (gone : s.stage.ending? ≠ none) {n : Nat}
    (accepted : n ∈ s.accepted) (stayed : n ∉ s.departed) :
    ∃ i r, (i, Event.answered n r) ∈ s.events := by
  have hand : s.inHand = [] := by
    unfold State.inHand
    rw [(o.gone gone).1]
    cases stage : s.stage with
    | ended how => rfl
    | _ =>
      rw [stage] at gone
      exact absurd rfl gone
  -- Nothing is in hand, so whatever was accepted was answered.
  have balance := l.balance n
  rw [hand, List.count_nil, Nat.zero_add] at balance
  have answered : n ∈ s.answered := by
    rw [← List.count_pos_iff, ← balance, List.count_pos_iff]
    exact accepted
  rcases List.mem_filterMap.mp answered with ⟨⟨i, e⟩, mem, same⟩
  cases e with
  | answered m r =>
    rw [show m = n from Option.some.inj same] at mem
    exact ⟨i, r, mem⟩
  | unheard m r =>
    rw [show m = n from Option.some.inj same] at mem
    exact absurd (l.silent i n r mem) stayed
  | accepted m =>
    exact absurd same (by simp only [Event.answered?, reduceCtorEq, not_false_eq_true])
  | rejected m =>
    exact absurd same (by simp only [Event.answered?, reduceCtorEq, not_false_eq_true])

end Ledger

/-- Every accepted submission gets exactly one answer. Under every schedule no
    send operation begins twice and none begins that was not accepted; no
    submission is answered twice and none is answered that was not accepted; what
    was turned away was not accepted and its send operation does not begin; and
    once the worker is gone, however it went, everybody whose submission was
    accepted and who did not leave has heard the answer. -/
theorem exactly_one_answer (q : Setup σ) (world : σ) (moves : List Move) :
    let s := (State.fresh (.fresh world)).play q moves
    s.sent.Nodup ∧ (∀ n ∈ s.sent, n ∈ s.accepted) ∧
    s.answered.Nodup ∧ (∀ n ∈ s.answered, n ∈ s.accepted) ∧
    (∀ n ∈ s.rejected, n ∉ s.accepted ∧ n ∉ s.sent) ∧
    (∀ how, s.stage = .ended how → ∀ n ∈ s.accepted, n ∉ s.departed →
      ∃ i r, (i, Event.answered n r) ∈ s.events) := by
  intro s
  have l : Ledger s := Ledger.play q moves world
  have o : Orderly s := Orderly.play q moves _
  -- What was sent and what was answered was accepted, and nothing was accepted twice.
  have sent (n : Nat) : s.sent.count n ≤ s.accepted.count n :=
    Nat.le_trans (Nat.le_add_right _ _) (l.taken n)
  have answered (n : Nat) : s.answered.count n ≤ s.accepted.count n := by
    rw [l.balance n]
    exact Nat.le_add_left _ _
  refine ⟨?_, ?_, ?_, ?_, ?_, ?_⟩
  · exact List.nodup_iff_count.mpr fun n => Nat.le_trans (sent n) (l.accepted_le n)
  · intro n mem
    exact List.count_pos_iff.mp (Nat.lt_of_lt_of_le (List.count_pos_iff.mpr mem) (sent n))
  · exact List.nodup_iff_count.mpr fun n => Nat.le_trans (answered n) (l.accepted_le n)
  · intro n mem
    exact List.count_pos_iff.mp (Nat.lt_of_lt_of_le (List.count_pos_iff.mpr mem) (answered n))
  · intro n mem
    have turned := List.count_pos_iff.mpr mem
    have once := l.once n
    have accepted : s.accepted.count n = 0 := by
      split at once <;> omega
    refine ⟨List.count_eq_zero.mp accepted, List.count_eq_zero.mp ?_⟩
    exact Nat.eq_zero_of_le_zero (accepted ▸ sent n)
  · intro how ended n accepted stayed
    refine l.heard o ?_ accepted stayed
    rw [ended]
    exact Option.some_ne_none how

end Queue

end TxRelay
