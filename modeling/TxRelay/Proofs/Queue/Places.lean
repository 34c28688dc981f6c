import TxRelay.Proofs.Queue.Ways

/-!
# Places

A queue never stores more than it has places, and nobody waits while a place is free:
whoever is handed a place takes it off the free ones, and a place becomes free only
when nobody is left in line to be handed it. And what is stored is what was accepted
and not sent yet, in the order of acceptance. This holds between any two moves, under
any schedule.

## Main definitions

* `Queue.Spaced`: The places of a queue are accounted for.
* `Queue.Sequenced`: Submissions are sent in the order of acceptance.

## Theorems

* `Queue.State.work_cases`: What a step of the worker is.
* `Queue.Spaced.kept`, `Queue.Sequenced.kept`: Every step keeps them.
* `Queue.Spaced.full_of_waiting`: Nobody waits in vain.
-/

namespace TxRelay

namespace Queue

variable {σ : Type} {q : Setup σ} {s t : State σ} {h : List (Nat × Happening)}

namespace State

/-- What a step of the worker is: it drains a closed queue, takes the oldest entry,
    finishes, or goes on with the submission in flight. -/
theorem work_cases {limit : Nat} (work : s.work? q limit = some t) :
    (s.stage = .idle ∧ s.shutdown = true ∧ t = s.drain) ∨
    (∃ e rest, s.stage = .idle ∧ s.shutdown = false ∧ s.buffer = e :: rest ∧
      t = s.receive q e rest) ∨
    (s.stage = .idle ∧ s.shutdown = false ∧ s.buffer = [] ∧ s.held = false ∧ s.waiters = [] ∧
      t = s.leave .finished) ∨
    ∃ n i d o fate, Flight q s n i d o fate ∧ t = (s.after i o).follow n fate := by
  rcases ticket : s.stage.ticket? with _ | n
  · have idle := Step.idle_of_work? ticket work
    simp only [work?, idle] at work
    by_cases closed : s.shutdown = true
    · rw [if_pos closed] at work
      exact Or.inl ⟨idle, closed, (Option.some.inj work).symm⟩
    · have opened := Bool.eq_false_iff.mpr closed
      rw [if_neg closed] at work
      cases buffer : s.buffer with
      | cons e rest =>
        rw [buffer] at work
        exact Or.inr (Or.inl ⟨e, rest, idle, opened, rfl, (Option.some.inj work).symm⟩)
      | nil =>
        rw [buffer] at work
        dsimp only at work
        by_cases ends : (!s.held && s.waiters.isEmpty) = true
        · rw [if_pos ends] at work
          rw [Bool.and_eq_true, Bool.not_eq_true', List.isEmpty_iff] at ends
          exact Or.inr (Or.inr (Or.inl
            ⟨idle, opened, rfl, ends.1, ends.2, (Option.some.inj work).symm⟩))
        · rw [if_neg ends] at work
          exact absurd work (by simp only [reduceCtorEq, not_false_eq_true])
  · rcases Flight.of_work? ticket work with ⟨i, d, o, fate, flight, state, -, -⟩
    exact Or.inr (Or.inr (Or.inr ⟨n, i, d, o, fate, flight, state⟩))

-- A worker that goes away accepts nobody.
theorem accepted_cleared (how : Ending) (r : Response) (line hand : List Nat) (m : Metrics)
    (s : State σ) :
    ((s.cleared how (s.refusals line ++ s.replies r hand)).measure fun _ => m).accepted =
      s.accepted := by
  rw [accepted_of_events (s := s) rfl, List.filterMap_append, accepted?_refusals,
    accepted?_replies]
  rfl

end State

/-- The places of a queue are accounted for. -/
structure Spaced (q : Setup σ) (s : State σ) : Prop where
  /-- No more places are taken than there are. -/
  room : s.depth ≤ q.places
  /-- Who waits without having been handed a place waits because none is free. -/
  full : s.granted < s.waiters.length → q.places ≤ s.depth

namespace Spaced

theorem fresh (q : Setup σ) (o : Surroundings σ) : Spaced q (State.fresh o) :=
  ⟨Nat.zero_le _, fun waits => absurd waits (Nat.lt_irrefl 0)⟩

-- A queue that was emptied has all its places.
theorem of_empty (buffer : t.buffer.length ≤ q.places) (waiters : t.waiters = [])
    (granted : t.granted = 0) : Spaced q t := by
  refine ⟨?_, fun waits => ?_⟩
  · unfold State.depth
    omega
  · rw [waiters] at waits
    exact absurd waits (Nat.not_lt_zero _)

-- A worker that goes away frees every place.
theorem leave (how : Ending) (s : State σ) : Spaced q (s.leave how) := by
  rcases s.leave_shape how with ⟨m, shape⟩
  rw [shape]
  exact of_empty (Nat.zero_le _) rfl rfl

/-- Every step keeps the places accounted for. -/
theorem kept (step : Step q s h t) (p : Spaced q s) : Spaced q t := by
  have room := p.room
  have full := p.full
  unfold State.depth at room full
  cases step with
  | start | turnAway | depart | dropHandle | goesOn | isOver | wait => exact ⟨p.room, p.full⟩
  | accept send held opened alive less =>
    unfold State.depth at less
    refine ⟨?_, fun waits => ?_⟩
    · show (s.buffer ++ [_]).length + s.granted ≤ q.places
      rw [List.length_append, List.length_singleton]
      omega
    · show q.places ≤ (s.buffer ++ [_]).length + s.granted
      have before : s.granted < s.waiters.length := waits
      rw [List.length_append, List.length_singleton]
      omega
  | lineUp send held opened alive none => exact ⟨p.room, fun _ => none⟩
  | leaveLine ticket =>
    -- A place that was handed to the one who leaves goes to the next in line.
    have fewer := List.length_filter_le (fun e : Entry => e.ticket != ticket) s.waiters
    refine ⟨?_, fun waits => ?_⟩
    · show s.buffer.length + min s.granted _ ≤ q.places
      omega
    · show q.places ≤ s.buffer.length + min s.granted _
      have less : min s.granted (s.waiters.filter fun e => e.ticket != ticket).length <
          (s.waiters.filter fun e => e.ticket != ticket).length := waits
      omega
  | close held running =>
    rcases s.close_shape with ⟨m, shape⟩
    rw [shape]
    exact of_empty (Nat.le_trans (Nat.le_add_right _ _) room) rfl rfl
  | @store front e rest granted waiters =>
    rw [waiters, List.length_append, List.length_cons] at full
    refine ⟨?_, fun waits => ?_⟩
    · show (s.buffer ++ [e]).length + (s.granted - 1) ≤ q.places
      rw [List.length_append, List.length_singleton]
      omega
    · show q.places ≤ (s.buffer ++ [e]).length + (s.granted - 1)
      have less : s.granted - 1 < (front ++ rest).length := waits
      rw [List.length_append] at less
      rw [List.length_append, List.length_singleton]
      omega
  | @take e rest stage opened buffer =>
    -- The place that becomes free is handed to the first in line who has none.
    rw [buffer, List.length_cons] at room full
    rw [(s.receive_frame q e rest).1]
    refine ⟨?_, fun waits => ?_⟩
    · show rest.length + min (s.granted + 1) s.waiters.length ≤ q.places
      omega
    · show q.places ≤ rest.length + min (s.granted + 1) s.waiters.length
      have less : min (s.granted + 1) s.waiters.length < s.waiters.length := waits
      omega
  | lose | finish => exact leave _ s
  | crashes => exact leave _ _
  | drain => exact leave _ _

theorem move (m : Move) (p : Spaced q s) : Spaced q (s.move q m) :=
  State.step_induction q (fun _ _ _ step before => before.kept step) [m] s p

theorem play (q : Setup σ) (moves : List Move) (o : Surroundings σ) :
    Spaced q ((State.fresh o).play q moves) :=
  State.step_induction q (fun _ _ _ step before => before.kept step) moves _ (fresh q o)

-- While no place is on its way, a caller waits only if the buffer is full.
theorem full_of_waiting (p : Spaced q s) (o : Orderly s) (calm : s.granted = 0)
    (waits : s.waiters ≠ []) :
    s.buffer.length = q.places ∧ s.shutdown = false ∧ s.stage.ending? = none := by
  have room := p.room
  have full := p.full
  unfold State.depth at room full
  rw [calm] at room full
  refine ⟨?_, ?_, ?_⟩
  · have taken := full (List.length_pos_iff.mpr waits)
    omega
  · exact Bool.eq_false_iff.mpr fun closed => waits (o.closed closed)
  · exact Decidable.byContradiction fun gone => waits (o.gone gone).2

end Spaced

/-- Submissions are sent in the order in which they were accepted. -/
structure Sequenced (s : State σ) : Prop where
  /-- What was accepted last is stored. -/
  stored : s.stage.ending? = none → s.accepted = (s.buffer.map Entry.ticket).reverse ++ s.sent
  /-- What was sent was accepted first. -/
  sent : s.sent <:+ s.accepted

namespace Sequenced

theorem fresh (world : σ) : Sequenced (State.fresh (.fresh world)) :=
  ⟨fun _ => rfl, List.suffix_refl _⟩

-- What was sent was accepted first, as long as all that was accepted since is
-- stored.
theorem of_stored (stored : t.accepted = (t.buffer.map Entry.ticket).reverse ++ t.sent) :
    Sequenced t :=
  ⟨fun _ => stored, ⟨_, stored.symm⟩⟩

-- Nothing was accepted or sent.
theorem of_same (c : Sequenced s) (accepted : t.accepted = s.accepted) (sent : t.sent = s.sent)
    (rest : t.stage.ending? = none → s.stage.ending? = none ∧ t.buffer = s.buffer) :
    Sequenced t := by
  refine ⟨fun alive => ?_, ?_⟩
  · rw [accepted, sent, (rest alive).2]
    exact c.stored (rest alive).1
  · rw [accepted, sent]
    exact c.sent

-- A worker that goes away accepts and sends nothing.
theorem cleared (how : Ending) (r : Response) (hand : List Nat) (m : Metrics)
    (c : Sequenced s) :
    Sequenced ((s.cleared how (s.refusals s.inLine ++ s.replies r hand)).measure fun _ => m) := by
  refine c.of_same (s.accepted_cleared how r _ hand m) rfl fun alive => ?_
  exact absurd alive (by simp only [State.measure, State.cleared, Stage.ending?, reduceCtorEq,
    not_false_eq_true])

theorem leave (how : Ending) (c : Sequenced s) : Sequenced (s.leave how) := by
  rcases s.leave_shape how with ⟨m, shape⟩
  rw [shape]
  exact c.cleared how _ _ m

/-- Every step keeps the order. -/
theorem kept (step : Step q s h t) (c : Sequenced s) : Sequenced t := by
  -- An entry that is stored is accepted, and sent after all before it.
  have grows {u : State σ} {e : Entry} (alive : s.stage.ending? = none)
      (accepted : u.accepted = e.ticket :: s.accepted) (sent : u.sent = s.sent)
      (buffer : u.buffer = s.buffer ++ [e]) : Sequenced u := by
    refine of_stored ?_
    rw [accepted, sent, buffer, c.stored alive, List.map_append, List.reverse_append]
    rfl
  cases step with
  | start stage => exact c.of_same rfl rfl fun _ => ⟨by rw [stage]; rfl, rfl⟩
  | turnAway | lineUp | leaveLine | depart | dropHandle | wait =>
    exact c.of_same rfl rfl fun alive => ⟨alive, rfl⟩
  | accept send held opened alive room => exact grows alive rfl (Surroundings.sent_measure _ _) rfl
  | close held running =>
    rcases s.close_shape with ⟨m, shape⟩
    rw [shape]
    refine c.of_same ?_ rfl fun alive => ⟨alive, rfl⟩
    rw [State.accepted_of_events (s := s) rfl, State.accepted?_refusals]
    rfl
  | lose | finish => exact c.leave _
  | @store front e rest granted waiters =>
    cases ending : s.stage.ending? with
    | none => exact grows ending rfl (Surroundings.sent_measure _ _) rfl
    | some how =>
      have sent : (State.store e
          { s with waiters := front ++ rest, granted := s.granted - 1 }).sent = s.sent :=
        Surroundings.sent_measure _ _
      refine ⟨fun alive => ?_, ?_⟩
      · exact absurd (ending.symm.trans alive) (by simp only [reduceCtorEq, not_false_eq_true])
      · rw [sent]
        exact c.sent.trans (List.suffix_cons _ _)
  | @take e rest stage opened buffer =>
    have alive : s.stage.ending? = none := by rw [stage]; rfl
    have sent : (s.receive q e rest).sent = e.ticket :: s.sent := by
      refine (State.sent_of_acts (Step.acts_receive q e rest s)).trans ?_
      unfold Entry.opening
      cases e.send <;> rfl
    refine of_stored ?_
    have stored := c.stored alive
    rw [buffer, List.map_cons, List.reverse_cons, List.append_assoc] at stored
    rw [sent, (s.receive_frame q e rest).1]
    exact stored
  | goesOn flight acts calm =>
    refine c.of_same rfl (Ledger.sent_of_flight flight) fun _ => ⟨?_, rfl⟩
    exact Stage.ending?_of_ticket? flight.ticket?
  | @isOver n i d o r flight calm =>
    refine c.of_same ?_ (Ledger.sent_of_flight flight) fun _ => ⟨?_, rfl⟩
    · rw [State.accepted_of_events (s := s) (e := [(max s.now i, s.reply n r)]) rfl]
      simp only [List.filterMap_cons, State.accepted?_reply, List.filterMap_nil, List.nil_append]
    · exact Stage.ending?_of_ticket? flight.ticket?
  | @crashes n i d o text flight calm =>
    have later : Sequenced (s.after i o) :=
      c.of_same rfl (Ledger.sent_of_flight flight) fun alive => ⟨alive, rfl⟩
    exact later.leave _
  | drain stage closed =>
    rcases s.drain_shape (by rw [stage]; rfl) with ⟨m, shape⟩
    rw [shape]
    exact c.cleared .finished _ _ m

theorem play (q : Setup σ) (moves : List Move) (world : σ) :
    Sequenced ((State.fresh (.fresh world)).play q moves) :=
  State.step_induction q (fun _ _ _ step before => before.kept step) moves _ (fresh world)

end Sequenced

end Queue

end TxRelay
