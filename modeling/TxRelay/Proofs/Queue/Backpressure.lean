import TxRelay.Proofs.Queue.Line
import TxRelay.Proofs.Queue.Readings

/-!
# Backpressure

Under any schedule the places of a queue are accounted for, nobody waits in vain,
everybody who asked is accounted for, and submissions are sent in the order of
acceptance. Two things are so only while callers are patient.

The gauge and the depth are not the same number at every moment. The depth counts
places that were handed to callers who have not stored their entries yet; the gauge
is what the last one wrote who stored an entry or took one. They agree when no place
is on its way. But a place can be taken back from a caller who leaves, or is turned
away by a shutdown, before it stored its entry, and the gauge is not written then: it
shows the place until an entry is stored or taken again.

And callers are accepted in the order of asking unless one asks while a place is on its
way, or one who was handed a place stores its entry before another who was handed one
earlier. In runs made of commands nobody does: a command is given when nothing can
happen any more, and those who were handed places store their entries in line.

## Main definitions

* `Queue.State.TakesBack`: A move takes back a place that was handed out.
* `Queue.State.Shown`: The gauge shows the stored entries, or the places taken.
* `Queue.Backpressure`: What holds of the places, the line and the order.

## Theorems

* `Queue.State.gauge_move`: What a move does to the gauge.
* `Queue.backpressure`: What holds in every run.
* `Queue.waiting_caller_overtaken`: Runs in which callers are not patient.
-/

namespace TxRelay

namespace Queue

variable {σ : Type} {q : Setup σ} {s t : State σ}

-- A step in flight leaves the gauge alone.
theorem Flight.gauge {n i : Nat} {d : Option Happening} {o : Surroundings σ} {fate : Fate}
    (flight : Flight q s n i d o fate) :
    o.metrics.queueDepth = s.outside.metrics.queueDepth := by
  generalize written : o.metrics = m
  have records := flight.records
  rw [written] at records
  cases records <;> rfl

namespace State

/-- A call takes back a place that was handed out, and it is handed to nobody else. -/
def TakesBack (q : Setup σ) (s : State σ) : Move → Prop
  | .call c => (s.move q (.call c)).granted < s.granted
  | _ => False

/-- The gauge shows the stored entries, or the places taken by them and by callers about
    to store theirs. -/
def Shown (s : State σ) : Prop :=
  s.outside.metrics.queueDepth = s.buffer.length ∨ s.outside.metrics.queueDepth = s.depth

-- While no place is on its way these are the same.
theorem Shown.gauge (shown : s.Shown) (calm : s.granted = 0) :
    s.outside.metrics.queueDepth = s.buffer.length := by
  rcases shown with stored | taken
  · exact stored
  · rw [taken]
    unfold depth
    rw [calm, Nat.add_zero]

-- The gauge of a queue without its worker.
theorem shown_leave (how : Ending) (s : State σ) : (s.leave how).Shown := by
  rcases s.leave_written how with ⟨e, shape⟩
  rw [shape]
  exact Or.inl rfl

-- Whoever stores an entry shows how many places are taken.
theorem shown_store {e : Entry} (few : s.depth < maxPlaces) : (s.store e).Shown := by
  refine Or.inr ?_
  unfold depth at few
  rw [metrics_store, Metrics.queueDepth_setQueueDepth (by omega)]
  show _ = (((s.buffer ++ [e]).length + s.granted : Nat) : Int)
  rw [List.length_append, List.length_singleton]

-- The worker shows how many entries are left when it takes one.
theorem shown_receive {e : Entry} {rest : List Entry} (few : rest.length ≤ maxPlaces) :
    (s.receive q e rest).Shown := by
  refine Or.inl ?_
  rw [s.metrics_receive q e rest, Metrics.queueDepth_setQueueDepth few, (s.receive_frame q e rest).1]

/-- A move writes the gauge anew, or leaves it and the stored entries alone; and places
    that were handed out stay so, unless it takes one back. -/
theorem gauge_move (few : q.places ≤ maxPlaces) (m : Move) (p : Spaced q s) :
    (s.move q m).Shown ∨
      (s.move q m).buffer = s.buffer ∧
        (s.move q m).outside.metrics.queueDepth = s.outside.metrics.queueDepth ∧
        ((s.move q m).granted = s.granted ∨ s.TakesBack q m) := by
  have room := p.room
  have effect := Effect.of_move q m s
  generalize made : s.move q m = t at effect
  cases effect with
  | nothing | start | turnAway | lineUp | depart | dropHandle | wait =>
    exact Or.inr ⟨rfl, rfl, Or.inl rfl⟩
  | lose => exact Or.inl (s.shown_leave _)
  | accept send held opened alive less =>
    exact Or.inl (shown_store (s := { s with asked := s.asked + 1 }) (Nat.lt_of_lt_of_le less few))
  | store granted waiters =>
    refine Or.inl (shown_store ?_)
    unfold depth at room ⊢
    dsimp only
    omega
  | leaveLine n waits =>
    refine Or.inr ⟨rfl, rfl, ?_⟩
    rcases Nat.lt_or_ge (s.move q (.call (.withdraw n))).granted s.granted with less | same
    · exact Or.inr less
    · rw [made] at same
      exact Or.inl (Nat.le_antisymm (Nat.min_le_left _ _) same)
  | close held running =>
    rcases s.close_written with ⟨e, shape⟩
    rw [shape] at made ⊢
    refine Or.inr ⟨rfl, rfl, ?_⟩
    rcases Nat.eq_zero_or_pos s.granted with calm | places
    · exact Or.inl calm.symm
    · refine Or.inr ?_
      show (s.move q (.call .stop)).granted < s.granted
      rw [made]
      exact places
  | work own work calm =>
    rcases work_cases work with ⟨idle, -, rfl⟩ | ⟨e, rest, -, -, buffer, rfl⟩ |
      ⟨-, -, -, -, -, rfl⟩ | ⟨n, i, d, o, fate, flight, rfl⟩
    · rcases s.drain_written (by rw [idle]; rfl) with ⟨e, shape⟩
      rw [shape]
      exact Or.inl (Or.inl rfl)
    · unfold depth at room
      rw [buffer, List.length_cons] at room
      exact Or.inl (shown_receive (by omega))
    · exact Or.inl (s.shown_leave _)
    · cases fate with
      | on stage => exact Or.inr ⟨rfl, flight.gauge, Or.inl rfl⟩
      | answered r => exact Or.inr ⟨rfl, flight.gauge, Or.inl rfl⟩
      | crash text => exact Or.inl (shown_leave _ _)

-- The gauge stays right as long as no place is taken back.
theorem Shown.move {m : Move} (few : q.places ≤ maxPlaces) (p : Spaced q s)
    (kept : ¬s.TakesBack q m) (shown : s.Shown) : (s.move q m).Shown := by
  rcases gauge_move few m p with written | ⟨buffer, gauge, places⟩
  · exact written
  · have granted := places.resolve_right kept
    unfold Shown depth at shown ⊢
    rw [buffer, gauge, granted]
    exact shown

theorem Shown.play {moves : List Move} {world : σ} (few : q.places ≤ maxPlaces)
    (way : (State.fresh (.fresh world)).Leads q s)
    (kept : s.Along q (fun u m => ¬u.TakesBack q m) moves) (shown : s.Shown) :
    (s.play q moves).Shown := by
  have all : (s.play q moves).Shown ∧ (State.fresh (.fresh world)).Leads q (s.play q moves) := by
    refine along_induction
      (I := fun u : State σ => u.Shown ∧ (State.fresh (.fresh world)).Leads q u) ?_ kept
      ⟨shown, way⟩
    rintro u m kept ⟨shown, way⟩
    exact ⟨shown.move few (InOrder.leads way).2.1 kept, way.trans (.move m u)⟩
  exact all.1

-- A move made in its turn does not take a place back.
theorem Timely.kept {m : Move} (timely : s.Timely m) : ¬s.TakesBack q m := by
  cases m with
  | call c =>
    intro back
    have none : s.granted = 0 := timely
    have less : (s.move q (.call c)).granted < s.granted := back
    omega
  | _ => exact id

end State

/-- What holds of the places, the line and the order under any schedule, when these have
    left the line. -/
structure Backpressure (q : Setup σ) (s : State σ) (gone : List Nat) : Prop where
  /-- No more places are taken than there are, by stored entries and by callers about to
      store theirs. -/
  room : s.depth ≤ q.places
  /-- While no place is on its way, the depth is the number of stored entries. -/
  depth : s.granted = 0 → s.depth = s.buffer.length
  /-- Whoever waits for a place then waits because the buffer is full, and will be
      served: the queue is open and has its worker. -/
  waiting : s.granted = 0 → s.waiters ≠ [] →
    s.buffer.length = q.places ∧ s.shutdown = false ∧ s.stage.ending? = none
  /-- Every call that was asked was accepted or turned away, or waits in line, or its
      caller has left the line, and it is only one of these. -/
  settled : (s.accepted ++ s.rejected ++ s.inLine ++ gone).Perm (List.range s.asked)
  /-- The line is in the order of asking. -/
  line : s.inLine.Pairwise (· < ·)
  /-- Nobody was accepted at a later instant than somebody who asked after it. -/
  turns : ∀ a ∈ s.acceptances, ∀ b ∈ s.acceptances, a.2 < b.2 → a.1 ≤ b.1
  /-- If somebody in line asked before somebody who was accepted, it was handed a place,
      and the other was accepted just now. -/
  handed : ∀ n ∈ s.inLine, ∀ a ∈ s.acceptances, n < a.2 →
    a.1 = s.now ∧ n ∈ s.inLine.take s.granted
  /-- Submissions are sent in the order in which they were accepted. -/
  sent : s.sent <:+ s.accepted

/-- In every run, under any schedule, places, line and order are as they should be.
    Everybody is accepted in the order of asking if nobody stores an entry before a
    caller who was handed a place earlier. Whenever no place is on its way the gauge shows
    what is stored, unless a place was taken back since an entry was last stored or taken.
    Runs made of commands are such runs. -/
theorem backpressure (q : Setup σ) (world : σ) (allowed : refusal? q.capacity = none) :
    let s := State.fresh (.fresh world)
    (∀ moves, Backpressure q (s.play q moves) (s.quitters q moves)) ∧
    (∀ moves, s.Along q (fun u m => ¬u.Overtakes m) moves → Listed (s.play q moves)) ∧
    (∀ before after,
      (before = [] ∨
        ∃ moves m, before = moves ++ [m] ∧ (s.play q before).buffer ≠ (s.play q moves).buffer) →
      (s.play q before).Along q (fun u m => ¬u.TakesBack q m) after →
      let t := s.play q (before ++ after)
      t.granted = 0 → t.outside.metrics.queueDepth = t.buffer.length) ∧
    ∀ commands, ∃ moves,
      let t := s.run q commands
      t = s.play q moves ∧ t.granted = 0 ∧ Listed t ∧
        t.outside.metrics.queueDepth = t.buffer.length := by
  have few : q.places ≤ maxPlaces := by
    unfold refusal? at allowed
    exact Decidable.byContradiction fun many =>
      absurd ((if_neg many).symm.trans allowed) (by simp only [reduceCtorEq, not_false_eq_true])
  have shown : (State.fresh (.fresh world)).Shown := Or.inl rfl
  refine ⟨fun moves => ?_, fun moves fair => .play q world fair, fun before after written kept => ?_,
    fun commands => ?_⟩
  · have way : (State.fresh (.fresh world)).Leads q ((State.fresh (.fresh world)).play q moves) :=
      ⟨moves, rfl⟩
    rcases InOrder.leads way with ⟨inOrder, spaced, orderly⟩
    have none : (State.fresh (.fresh world)).Settled [] := fun n => rfl
    have settled := State.settled_play q moves (.fresh (.fresh world)) none
    refine
      { room := spaced.room
        depth := fun calm => by rw [State.depth, calm, Nat.add_zero]
        waiting := spaced.full_of_waiting orderly
        settled := List.perm_iff_count.mpr fun n => ?_
        line := inOrder.line
        turns := inOrder.turns
        handed := inOrder.handed
        sent := (Sequenced.play q moves world).sent }
    rw [List.count_append, List.count_append, List.count_append, List.count_range]
    exact settled n
  · rw [State.play_append]
    refine (State.Shown.play few ⟨before, rfl⟩ kept ?_).gauge
    rcases written with rfl | ⟨moves, m, rfl, changed⟩
    · exact shown
    · rw [State.play_append] at changed ⊢
      rcases State.gauge_move few m (Spaced.play q moves (.fresh world)) with written | ⟨same, -⟩
      · exact written
      · exact absurd same changed
  · have rest : AtRest q (State.fresh (.fresh world)) := .fresh q world
    rcases rest.run_timely commands with ⟨moves, timely, same⟩
    have calm := (rest.run commands).granted
    have listed := Listed.play q world (timely.imp fun _ _ => State.Timely.fair)
    have gauge := (shown.play few (.refl _) (timely.imp fun _ _ => State.Timely.kept)).gauge
    rw [← same] at listed gauge
    exact ⟨moves, same, calm, listed, gauge calm⟩

-- A queue with one place, with one submission in flight, one stored and one in line, and
-- one whose caller has left the line.
theorem backpressure_mute :
    refusal? Setup.mute.capacity = none ∧
    Backpressure Setup.mute ((State.fresh (.fresh ())).play Setup.mute
      [.call .start, .call (.enqueue (.direct .never)), .work, .call (.enqueue (.direct .never)),
        .call (.enqueue (.direct .never)), .call (.enqueue (.direct .never)),
        .call (.withdraw 2)]) [2] :=
  ⟨rfl, (backpressure Setup.mute () rfl).1 _⟩

/-- A caller who was handed a place is overtaken by one who asks at that instant, and by
    one who was handed a place after it. Another leaves before it stored its entry, and
    the gauge goes on showing its place. And what was accepted is not sent if a shutdown
    comes first. -/
theorem waiting_caller_overtaken :
    let quick : Send := .direct (.after 0 (.failure .queueClosed))
    let slow : Send := .direct .never
    -- Both places are taken, and two callers are in line; then both places become free.
    let freed := (State.fresh (.fresh ())).play Setup.narrow
      [.call .start, .call (.enqueue quick), .call (.enqueue slow), .call (.enqueue slow),
        .call (.enqueue slow), .work, .work, .work]
    let asked := (State.fresh (.fresh ())).play Setup.narrow
      [.call .start, .call (.enqueue quick), .call (.enqueue slow), .call (.enqueue slow), .work,
        .work, .work, .call (.enqueue slow), .store 0]
    let passed := freed.play Setup.narrow [.store 1, .store 0]
    let left := freed.play Setup.narrow [.store 0, .call (.withdraw 3)]
    let stopped := (State.fresh (.fresh ())).play Setup.narrow
      [.call (.enqueue slow), .call .stop, .call .start, .work]
    asked.accepted = [2, 3, 1, 0] ∧ passed.accepted = [2, 3, 1, 0] ∧
    (left.granted = 0 ∧ left.work? Setup.narrow left.now = none ∧
      left.outside.metrics.queueDepth = 2 ∧ left.buffer.length = 1) ∧
    (stopped.accepted = [0] ∧ stopped.sent = []) :=
  ⟨rfl, rfl, ⟨rfl, rfl, by decide, rfl⟩, ⟨rfl, rfl⟩⟩

end Queue

end TxRelay
