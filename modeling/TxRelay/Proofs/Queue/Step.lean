import TxRelay.Proofs.Queue.Flight

/-!
# Steps

Everything that a single move can do to a queue, case by case, with what it adds
to the history. A move is a call from outside, the worker taking a step, or a
caller storing its entry, and each of them is spread over several functions; a
proof that some property is kept would have to open all of them. `Step` lists
the cases once, and `Chronicle.move_cases` says that there are no others, so
such a proof is a case split over `Step`.

## Main definitions

* `Queue.Step`: A step of the queue.

## Theorems

* `Queue.Step.of_work?`: A step of the worker.
* `Queue.Step.of_move`: A move is a step, or it changes nothing.
* `Queue.State.step_induction`: What every step keeps, a run keeps.
* `Queue.Chronicle.step_induction`: The same with its history.
-/

namespace TxRelay

namespace Queue

variable {σ : Type}

/-- What is done when an entry is taken, the latest first. -/
def Entry.opening (e : Entry) : List Act :=
  match e.send with
  | .direct _ => [.send e.ticket]
  | .relay chain raw => [.attempt chain raw, .send e.ticket]

/-- A step of the queue, with what it adds to the history. -/
inductive Step (q : Setup σ) (s : State σ) : List (Nat × Happening) → State σ → Prop where
  /-- The worker is started. -/
  | start (stage : s.stage = .unstarted) :
      Step q s [(s.now, .started)] { s with stage := .idle }
  /-- A caller asks a closed queue, and is turned away. -/
  | turnAway (held : s.held = true)
      (shut : s.shutdown = true ∨ s.stage.ending?.isSome = true) :
      Step q s [(s.now, .told (.rejected s.asked))]
        ({ s with asked := s.asked + 1 }.reject s.asked)
  /-- A caller asks and finds a place. -/
  | accept (send : Send) (held : s.held = true) (opened : s.shutdown = false)
      (alive : s.stage.ending? = none) (room : s.depth < q.places) :
      Step q s [(s.now, .told (.accepted s.asked))]
        ({ s with asked := s.asked + 1 }.store ⟨s.asked, send⟩)
  /-- A caller asks and waits for a place. -/
  | lineUp (send : Send) (held : s.held = true) (opened : s.shutdown = false)
      (alive : s.stage.ending? = none) (full : q.places ≤ s.depth) :
      Step q s []
        { s with asked := s.asked + 1, waiters := s.waiters ++ [⟨s.asked, send⟩] }
  /-- A caller leaves the line. -/
  | leaveLine (ticket : Nat) :
      Step q s []
        { s with
          waiters := s.waiters.filter fun e => e.ticket != ticket
          granted := min s.granted (s.waiters.filter fun e => e.ticket != ticket).length }
  /-- A caller that does not wait for a place leaves. -/
  | depart (ticket : Nat) (absent : ticket ∉ s.inLine) :
      Step q s [] { s with departed := ticket :: s.departed }
  /-- A shutdown is asked for while the queue runs. -/
  | close (held : s.held = true) (running : s.lifecycle = .running) :
      Step q s (State.toldAll (s.refusals s.inLine) ++ [(s.now, .closed)])
        { s with lifecycle := .stopping, shutdown := true }.releaseWaiters
  /-- The handle is given up. -/
  | dropHandle : Step q s [] s.dropHandle
  /-- The worker is lost. -/
  | lose (alive : s.stage.ending? = none) :
      Step q s
        ((s.now, .left s.loss) :: State.toldAll
          (s.refusals s.inLine ++ s.replies (.failed .missingResult) s.inHand))
        (s.leave s.loss)
  /-- A caller who was handed a place stores its entry. -/
  | store {front : List Entry} {e : Entry} {rest : List Entry}
      (granted : front.length < s.granted) (waiters : s.waiters = front ++ e :: rest) :
      Step q s [(s.now, .told (.accepted e.ticket))]
        (State.store e { s with waiters := front ++ rest, granted := s.granted - 1 })
  /-- The worker takes the oldest entry. -/
  | take {e : Entry} {rest : List Entry} (stage : s.stage = .idle) (opened : s.shutdown = false)
      (buffer : s.buffer = e :: rest) :
      Step q s (State.didAll (e.opening.map fun a => (s.now, a))) (s.receive q e rest)
  /-- The submission in flight stays there. -/
  | goesOn {n i : Nat} {d : Option Happening} {o : Surroundings σ} {stage : Stage}
      {as : List (Nat × Act)} (flight : Flight q s n i d o (.on stage))
      (acts : o.acts = as ++ s.outside.acts) (calm : i ≤ s.now ∨ s.granted = 0) :
      Step q s (State.didAll as ++ d.toList.map fun h => (max s.now i, h))
        { s.after i o with stage := stage }
  /-- The submission in flight is answered. -/
  | isOver {n i : Nat} {d : Option Happening} {o : Surroundings σ} {r : Response}
      (flight : Flight q s n i d o (.answered r)) (calm : i ≤ s.now ∨ s.granted = 0) :
      Step q s ((max s.now i, .told (s.reply n r)) :: d.toList.map fun h => (max s.now i, h))
        ({ s.after i o with stage := .idle }.answer n r)
  /-- The submission in flight takes the worker down. -/
  | crashes {n i : Nat} {d : Option Happening} {o : Surroundings σ} {text : String}
      (flight : Flight q s n i d o (.crash text)) (calm : i ≤ s.now ∨ s.granted = 0) :
      Step q s
        ((max s.now i, .left (.crashed text)) :: State.toldAll
          ((s.after i o).refusals s.inLine ++
            (s.after i o).replies (.failed .missingResult) s.inHand) ++
          d.toList.map fun h => (max s.now i, h))
        ((s.after i o).leave (.crashed text))
  /-- The worker of a closed queue answers everything and goes away. -/
  | drain (stage : s.stage = .idle) (closed : s.shutdown = true) :
      Step q s
        ((s.now, .left .finished) :: State.toldAll
          (s.refusals s.inLine ++
            s.replies (.failed .queueClosed) (s.buffer.map Entry.ticket)))
        s.drain
  /-- The worker has nothing left to do, and goes away. -/
  | finish (stage : s.stage = .idle) (opened : s.shutdown = false) (buffer : s.buffer = [])
      (held : s.held = false) (waiters : s.waiters = []) :
      Step q s [(s.now, .left .finished)] (s.leave .finished)
  /-- Nothing happens up to an instant, and time passes. -/
  | wait (limit : Nat) (later : s.now ≤ limit) (granted : s.granted = 0)
      (rest : s.work? q limit = none) : Step q s [] (s.moveTo limit)

namespace Step

variable {q : Setup σ} {s t : State σ}

-- A step in flight, with its entries.
theorem of_flight {n i : Nat} {d : Option Happening} {o : Surroundings σ} {fate : Fate}
    (flight : Flight q s n i d o fate) (calm : i ≤ s.now ∨ s.granted = 0) :
    Step q s (State.entries d s ((s.after i o).follow n fate)) ((s.after i o).follow n fate) := by
  have started : s.stage ≠ .unstarted := by
    intro unstarted
    have ticket := flight.ticket?
    rw [unstarted] at ticket
    exact absurd ticket (by simp only [Stage.ticket?, reduceCtorEq, not_false_eq_true])
  have alive := Stage.ending?_of_ticket? flight.ticket?
  cases fate with
  | on stage =>
    have stays := Stage.ending?_of_ticket? flight.ticket?_on
    -- What it did is at most one act.
    have more : ∃ as, o.acts = as ++ s.outside.acts := by
      rcases flight.acts with same | ⟨a, -, more⟩
      · exact ⟨[], same⟩
      · exact ⟨[(i, a)], more⟩
    rcases more with ⟨as, acts⟩
    have hist := State.entries_eq (d := d) (s := s) (t := (s.after i o).follow n (.on stage))
      (e := []) rfl acts (State.endings_eq_nil stays) (State.openings_eq_nil started (Or.inl rfl))
    rw [List.append_nil] at hist
    rw [hist]
    exact goesOn flight acts calm
  | answered r =>
    have hist := State.entries_eq (d := d) (s := s) (t := (s.after i o).follow n (.answered r))
      (e := [(max s.now i, s.reply n r)]) (a := []) rfl flight.acts_over
      (State.endings_eq_nil rfl) (State.openings_eq_nil started (Or.inl rfl))
    simp only [State.didAll, List.map_nil, List.append_nil] at hist
    rw [hist]
    exact isOver flight calm
  | crash text =>
    have step := crashes flight calm
    rcases (s.after i o).leave_shape (.crashed text) with ⟨m, shape⟩
    rw [State.inHand_after, State.inLine_after] at shape
    have hist := State.entries_eq (d := d) (s := s)
      (t := ((s.after i o).cleared (.crashed text)
        ((s.after i o).refusals s.inLine ++
          (s.after i o).replies (.failed .missingResult) s.inHand)).measure fun _ => m)
      rfl (a := []) flight.acts_crash (State.endings_of_left alive rfl)
      (State.openings_eq_nil started (Or.inr rfl))
    simp only [State.didAll, List.map_nil, List.append_nil] at hist
    rw [State.follow, shape, hist]
    rw [shape] at step
    exact step

-- A worker that goes away, with its entries.
theorem entries_cleared {es : List (Nat × Event)} {how : Ending} {m : Metrics}
    (alive : s.stage.ending? = none) :
    State.entries none s ((s.cleared how es).measure fun _ => m) =
      (s.now, .left how) :: State.toldAll es := by
  have opens : State.openings s ((s.cleared how es).measure fun _ => m) = [] := by
    by_cases unstarted : s.stage = .unstarted
    · unfold State.openings
      rw [unstarted]
      cases s.lifecycle <;> rfl
    · exact State.openings_eq_nil unstarted (Or.inr rfl)
  have hist := State.entries_eq (d := none) (s := s)
    (t := (s.cleared how es).measure fun _ => m) rfl (a := []) rfl
    (State.endings_of_left alive rfl) opens
  simp only [State.didAll, List.map_nil, List.append_nil, Option.toList_none] at hist
  exact hist

-- What an entry that is taken asks of the chains at once.
theorem acts_receive (q : Setup σ) (e : Entry) (rest : List Entry) (s : State σ) :
    (s.receive q e rest).outside.acts = e.opening.map (fun a => (s.now, a)) ++ s.outside.acts := by
  unfold State.receive Entry.opening
  cases e.send with
  | direct reply =>
    dsimp only
    rw [Surroundings.acts_note, Surroundings.acts_measure]
    rfl
  | relay chain raw =>
    dsimp only
    rw [Broadcast.Run.acts_begin, Surroundings.acts_note, Surroundings.acts_measure]
    rfl

-- A worker that takes a step with nothing in flight is idle.
theorem idle_of_work? {limit : Nat} (free : s.stage.ticket? = none)
    (work : s.work? q limit = some t) : s.stage = .idle := by
  cases stage : s.stage with
  | idle => rfl
  | unstarted =>
    simp only [State.work?, stage] at work
    exact absurd work (by simp only [reduceCtorEq, not_false_eq_true])
  | ended how =>
    simp only [State.work?, stage] at work
    exact absurd work (by simp only [reduceCtorEq, not_false_eq_true])
  | sending n sending =>
    rw [stage] at free
    exact absurd free (by simp only [Stage.ticket?, reduceCtorEq, not_false_eq_true])
  | confirming n began wait =>
    rw [stage] at free
    exact absurd free (by simp only [Stage.ticket?, reduceCtorEq, not_false_eq_true])

-- A step of an idle worker of a closed queue, with its entries.
theorem of_idle_closed {limit : Nat} (idle : s.stage = .idle) (closed : s.shutdown = true)
    (work : s.work? q limit = some t) : Step q s (State.entries none s t) t := by
  have step := drain (q := q) idle closed
  rcases s.drain_shape (by rw [idle]; rfl) with ⟨m, shape⟩
  simp only [State.work?, idle, if_pos closed] at work
  rw [← Option.some.inj work]
  rw [shape] at step ⊢
  rw [entries_cleared (by rw [idle]; rfl)]
  exact step

-- A step of an idle worker of an open queue, with its entries.
theorem of_idle_open {limit : Nat} (idle : s.stage = .idle) (opened : s.shutdown = false)
    (work : s.work? q limit = some t) : Step q s (State.entries none s t) t := by
  have started : s.stage ≠ .unstarted := by rw [idle]; exact Stage.noConfusion
  simp only [State.work?, idle, if_neg (Bool.eq_false_iff.mp opened)] at work
  cases buffer : s.buffer with
  | cons e rest =>
    rw [buffer] at work
    rw [← Option.some.inj work]
    have stays : (s.receive q e rest).stage.ending? = none := by
      unfold State.receive
      cases e.send <;> rfl
    have same : (s.receive q e rest).lifecycle = s.lifecycle ∧
        (s.receive q e rest).events = s.events := by
      unfold State.receive
      cases e.send <;> exact ⟨rfl, rfl⟩
    have hist := State.entries_eq (d := none) (s := s) (t := s.receive q e rest) (e := [])
      same.2 (acts_receive q e rest s) (State.endings_eq_nil stays)
      (State.openings_eq_nil started (Or.inl same.1))
    simp only [List.map_nil, List.append_nil, Option.toList_none] at hist
    rw [hist]
    exact take idle opened buffer
  | nil =>
    rw [buffer] at work
    dsimp only at work
    by_cases ends : (!s.held && s.waiters.isEmpty) = true
    · -- Nobody is left to be told anything.
      rw [if_pos ends] at work
      rw [Bool.and_eq_true, Bool.not_eq_true', List.isEmpty_iff] at ends
      have step := finish (q := q) idle opened buffer ends.1 ends.2
      rcases s.leave_shape .finished with ⟨m, shape⟩
      have nobody : s.refusals s.inLine ++ s.replies (.failed .missingResult) s.inHand = [] := by
        simp only [State.inLine, State.inHand, ends.2, idle, buffer]
        rfl
      rw [← Option.some.inj work]
      rw [nobody] at shape
      rw [shape] at step ⊢
      rw [entries_cleared (by rw [idle]; rfl)]
      exact step
    · rw [if_neg ends] at work
      exact absurd work (by simp only [reduceCtorEq, not_false_eq_true])

/-- A step of the worker, with its entries. -/
theorem of_work? {limit : Nat} (calm : limit ≤ s.now ∨ s.granted = 0)
    (work : s.work? q limit = some t) :
    Step q s (State.entries (s.deed? q limit) s t) t := by
  rcases ticket : s.stage.ticket? with _ | n
  · have idle := idle_of_work? ticket work
    rw [show s.deed? q limit = none by simp only [State.deed?, idle]]
    cases closed : s.shutdown with
    | true => exact of_idle_closed idle closed work
    | false => exact of_idle_open idle closed work
  · rcases Flight.of_work? ticket work with ⟨i, d, o, fate, flight, state, deed, soon⟩
    rw [state, deed]
    refine of_flight flight ?_
    omega

-- A worker that takes no step brings nothing to light.
theorem deed?_eq_none {limit : Nat} (rest : s.work? q limit = none) : s.deed? q limit = none := by
  unfold State.work? at rest
  unfold State.deed?
  rcases stage : s.stage with _ | _ | ⟨n, (⟨i, outcome⟩ | _) | run⟩ | ⟨n, began, wait⟩ | how
  · rfl
  · rfl
  · rw [stage] at rest
    dsimp only at rest ⊢
    by_cases due : i ≤ limit
    · rw [if_pos due] at rest
      exact absurd rest (by simp only [reduceCtorEq, not_false_eq_true])
    · rw [if_neg due]
  · rfl
  · rw [stage] at rest
    dsimp only at rest ⊢
    by_cases due : run.due ≤ limit
    · rw [if_pos due] at rest
      split at rest <;> exact absurd rest (by simp only [reduceCtorEq, not_false_eq_true])
    · rw [if_neg due]
  · rw [stage] at rest
    dsimp only at rest ⊢
    by_cases closed : s.shutdown = true
    · rw [if_pos closed]
    · rw [if_neg closed] at rest ⊢
      by_cases due : wait.due ≤ limit
      · rw [if_pos due] at rest
        split at rest <;> exact absurd rest (by simp only [reduceCtorEq, not_false_eq_true])
      · rw [if_neg due]
  · rfl

/-- A step, with its entries, or no change. -/
def Moves (q : Setup σ) (s : State σ) (d : Option Happening) (t : State σ) : Prop :=
  (t = s ∧ d = none) ∨ Step q s (State.entries d s t) t

-- Starting the worker.
theorem of_start : Moves q s none s.start := by
  unfold State.start
  cases stage : s.stage with
  | unstarted =>
    have opens : State.openings s { s with stage := .idle } = [.started] := by
      unfold State.openings
      rw [stage]
      cases s.lifecycle <;> rfl
    have hist := State.entries_eq (d := none) (s := s) (t := { s with stage := .idle })
      (e := []) (a := []) rfl rfl (State.endings_eq_nil rfl) opens
    refine Or.inr ?_
    dsimp only
    rw [hist]
    exact start stage
  | _ => exact Or.inl ⟨rfl, rfl⟩

-- A move that neither begins nor ends anything and asks nothing of the chains
-- adds what it tells.
theorem entries_told {e : List (Nat × Event)} (events : t.events = e ++ s.events)
    (acts : t.outside.acts = s.outside.acts) (stage : t.stage = s.stage)
    (lifecycle : t.lifecycle = s.lifecycle) : State.entries none s t = State.toldAll e := by
  have opens : State.openings s t = [] := by
    unfold State.openings
    rw [stage, lifecycle]
    cases s.stage <;> cases s.lifecycle <;> rfl
  have ends : State.endings s t = [] := by
    unfold State.endings
    rw [stage]
    cases s.stage.ending? <;> rfl
  have hist := State.entries_eq (d := none) (a := []) events acts ends opens
  simp only [State.didAll, List.map_nil, List.append_nil, Option.toList_none,
    List.nil_append] at hist
  exact hist

-- A caller asks.
theorem of_enqueue (send : Send) (held : s.held = true) :
    Moves q s none (s.enqueue q.places send) := by
  refine Or.inr ?_
  unfold State.enqueue
  dsimp only
  by_cases shut : (s.shutdown || s.stage.ending?.isSome) = true
  · rw [if_pos shut]
    have hist := entries_told (s := s) (t := { s with asked := s.asked + 1 }.reject s.asked)
      (e := [(s.now, .rejected s.asked)]) rfl (Surroundings.acts_measure _ s.outside) rfl rfl
    rw [hist]
    rw [Bool.or_eq_true] at shut
    exact turnAway held shut
  · rw [if_neg shut]
    rw [Bool.or_eq_true, not_or] at shut
    have opened := Bool.eq_false_iff.mpr shut.1
    have alive := Option.not_isSome_iff_eq_none.mp shut.2
    by_cases room : s.depth < q.places
    · rw [if_pos room]
      have hist := entries_told (s := s) (t := { s with asked := s.asked + 1 }.store ⟨s.asked, send⟩)
        (e := [(s.now, .accepted s.asked)]) rfl (Surroundings.acts_measure _ s.outside) rfl rfl
      rw [hist]
      exact accept send held opened alive room
    · rw [if_neg room]
      have hist := entries_told (s := s)
        (t := { s with asked := s.asked + 1, waiters := s.waiters ++ [⟨s.asked, send⟩] })
        (e := []) rfl rfl rfl rfl
      rw [hist]
      exact lineUp send held opened alive (Nat.le_of_not_lt room)

-- A caller leaves.
theorem of_withdraw (ticket : Nat) : Moves q s none (s.withdraw ticket) := by
  refine Or.inr ?_
  unfold State.withdraw
  by_cases waits : (s.waiters.any fun e => e.ticket == ticket) = true
  · rw [if_pos waits]
    have hist := entries_told (s := s)
      (t := { s with
        waiters := s.waiters.filter fun e => e.ticket != ticket
        granted := min s.granted (s.waiters.filter fun e => e.ticket != ticket).length })
      (e := []) rfl rfl rfl rfl
    dsimp only
    rw [hist]
    exact leaveLine ticket
  · rw [if_neg waits]
    have hist := entries_told (s := s) (t := { s with departed := ticket :: s.departed })
      (e := []) rfl rfl rfl rfl
    rw [hist]
    refine depart ticket ?_
    -- A caller in line would have left the line.
    intro waiting
    rcases List.mem_map.mp waiting with ⟨e, mem, same⟩
    exact waits (List.any_eq_true.mpr ⟨e, mem, beq_iff_eq.mpr same⟩)

-- What a shutdown adds to the history.
theorem entries_stop (running : s.lifecycle = .running) :
    State.entries none s s.stop.2 =
      State.toldAll (s.refusals s.inLine) ++ [(s.now, .closed)] := by
  rcases s.close_shape with ⟨m, shape⟩
  have opens : State.openings s (s.shut.measure fun _ => m) = [.closed] := by
    unfold State.openings State.shut State.measure
    dsimp only
    rw [running]
    cases s.stage <;> rfl
  have ends : State.endings s (s.shut.measure fun _ => m) = [] := by
    unfold State.endings State.shut State.measure
    cases s.stage.ending? <;> rfl
  have hist := State.entries_eq (d := none) (s := s) (t := s.shut.measure fun _ => m)
    (a := []) (e := s.refusals s.inLine) rfl rfl ends opens
  simp only [State.didAll, List.map_nil, List.append_nil, Option.toList_none, List.map_cons,
    List.nil_append] at hist
  unfold State.stop
  rw [if_pos running]
  dsimp only
  rw [shape]
  exact hist

-- A shutdown is asked for.
theorem of_stop (held : s.held = true) : Moves q s none s.stop.2 := by
  by_cases running : s.lifecycle = .running
  · refine Or.inr ?_
    rw [entries_stop running]
    unfold State.stop
    rw [if_pos running]
    exact close held running
  · unfold State.stop
    rw [if_neg running]
    exact Or.inl ⟨rfl, rfl⟩

-- The worker is lost.
theorem of_abort : Moves q s none (s.abort s.loss) := by
  have lost (alive : s.stage.ending? = none) : Moves q s none (s.leave s.loss) := by
    have step := lose (q := q) alive
    rcases s.leave_shape s.loss with ⟨m, shape⟩
    rw [shape] at step
    refine Or.inr ?_
    rw [shape, entries_cleared alive]
    exact step
  unfold State.abort
  cases stage : s.stage with
  | ended how => exact Or.inl ⟨rfl, rfl⟩
  | _ => exact lost (by rw [stage]; rfl)

-- A caller stores its entry.
theorem of_store (before : Nat) : Moves q s none (s.storeAt before) := by
  rcases s.storeAt_cases before with none | ⟨front, e, rest, rfl, granted, waiters⟩
  · exact Or.inl ⟨State.storeAt_of_none none, rfl⟩
  · have hist := entries_told (s := s)
      (t := State.store e { s with waiters := front ++ rest, granted := s.granted - 1 })
      (e := [(s.now, .accepted e.ticket)]) rfl (Surroundings.acts_measure _ s.outside) rfl rfl
    refine Or.inr ?_
    rw [State.storeAt_eq granted waiters, hist]
    exact store granted waiters

-- The worker takes a step, if one is due.
theorem of_worker : Moves q s (s.deed? q s.now) ((s.work? q s.now).getD s) := by
  cases work : s.work? q s.now with
  | none => exact Or.inl ⟨rfl, deed?_eq_none work⟩
  | some t => exact Or.inr (of_work? (Or.inl (Nat.le_refl s.now)) work)

-- Time passes.
theorem of_pass (span : Nat) :
    Moves q s (s.deedOf? q (.call (.advance span))) (s.pass q (s.now + span)) := by
  unfold State.pass State.deedOf?
  dsimp only
  by_cases busy : ((s.work? q s.now).isSome || decide (0 < s.granted)) = true
  · rw [if_pos busy, if_pos busy]
    exact Or.inl ⟨rfl, rfl⟩
  · rw [if_neg busy, if_neg busy]
    rw [Bool.or_eq_true, not_or, decide_eq_true_iff] at busy
    have granted : s.granted = 0 := Nat.eq_zero_of_not_pos busy.2
    cases work : s.work? q (s.now + span) with
    | some t => exact Or.inr (of_work? (Or.inr granted) work)
    | none =>
      have hist := entries_told (s := s) (t := s.moveTo (s.now + span)) (e := []) rfl rfl rfl rfl
      refine Or.inr ?_
      rw [deed?_eq_none work, Option.getD_none, hist]
      exact wait (s.now + span) (Nat.le_add_right s.now span) granted work

/-- A move is a step, or it changes nothing. -/
theorem of_move (q : Setup σ) (m : Move) (s : State σ) :
    Moves q s (s.deedOf? q m) (s.move q m) := by
  cases m with
  | work => exact of_worker
  | store before => exact of_store before
  | call c =>
    cases c with
    | start => exact of_start
    | enqueue send =>
      unfold State.move State.call
      dsimp only
      by_cases held : s.held = true
      · rw [if_pos held]
        exact of_enqueue send held
      · rw [if_neg held]
        exact Or.inl ⟨rfl, rfl⟩
    | advance span => exact of_pass span
    | stop =>
      unfold State.move State.call
      dsimp only
      by_cases held : s.held = true
      · rw [if_pos held]
        exact of_stop held
      · rw [if_neg held]
        exact Or.inl ⟨rfl, rfl⟩
    | lose => exact of_abort
    | dropHandle =>
      refine Or.inr ?_
      have hist := entries_told (s := s) (t := s.dropHandle) (e := []) rfl rfl rfl rfl
      exact hist ▸ dropHandle
    | withdraw ticket => exact of_withdraw ticket

end Step

/-- What every step keeps, a run keeps. -/
theorem State.step_induction (q : Setup σ) {P : State σ → Prop}
    (keeps : ∀ s h t, Step q s h t → P s → P t) (moves : List Move) (s : State σ) (start : P s) :
    P (s.play q moves) := by
  refine State.play_induction q ?_ moves s start
  intro s m before
  rcases Step.of_move q m s with ⟨same, -⟩ | step
  · rw [same]
    exact before
  · exact keeps s _ _ step before

namespace Chronicle

-- A move is a step with its entries, or it changes nothing.
theorem move_cases (q : Setup σ) (m : Move) (c : Chronicle σ) :
    c.move q m = c ∨ ∃ h, Step q c.state h (c.move q m).state ∧
      (c.move q m).history = h ++ c.history := by
  rcases Step.of_move q m c.state with ⟨same, nothing⟩ | step
  · refine Or.inl ?_
    unfold move
    dsimp only
    rw [same, nothing, State.entries_self]
    rfl
  · exact Or.inr ⟨_, step, rfl⟩

/-- What every step keeps, a run with its history keeps. -/
theorem step_induction (q : Setup σ) {P : Chronicle σ → Prop}
    (keeps : ∀ (c : Chronicle σ) h t, Step q c.state h t → P c → P ⟨t, h ++ c.history⟩)
    (moves : List Move) (c : Chronicle σ) (start : P c) : P (c.play q moves) := by
  refine play_induction q ?_ moves c start
  intro c m before
  rcases c.move_cases q m with same | ⟨h, step, history⟩
  · rw [same]
    exact before
  · have after := keeps c h _ step before
    rw [← history] at after
    exact after

end Chronicle

end Queue

end TxRelay
