import TxRelay.Proofs.Queue.Move
import TxRelay.Proofs.Queue.Register

/-!
# What Moves Do

A move tries something, and what comes of it depends on the queue: a caller who asks
is turned away, accepted or lines up, and a caller who stores an entry must have been
handed a place. `Effect` lists what can come of each move, and `Effect.of_move` says
that there is nothing else. Where a property of a run depends on which moves were
made, and not only on what happened, its proof is a case split over `Effect`; where it
does not, `Step` is the finer one, since it tells the steps of the worker apart.

## Main definitions

* `Queue.State.Idles`: A move that can come to nothing.
* `Queue.Effect`: What comes of a move.

## Theorems

* `Queue.Effect.of_move`: A move comes to one of these.
-/

namespace TxRelay

namespace Queue

variable {σ : Type}

/-- A caller is in line. -/
theorem State.mem_inLine {n : Nat} {s : State σ} :
    n ∈ s.inLine ↔ (s.waiters.any fun e => e.ticket == n) = true := by
  unfold State.inLine
  simp only [List.mem_map, List.any_eq_true, beq_iff_eq]

/-- A move can come to nothing: there is nobody to do it, or nothing to do. The handle can
    always be given up, and a caller can always leave. -/
def State.Idles (s : State σ) : Move → Prop
  | .call .start => s.stage ≠ .unstarted
  | .call (.enqueue _) => s.held = false
  | .call .dropHandle => False
  | .call (.withdraw _) => False
  | _ => True

/-- What comes of a move. -/
inductive Effect (q : Setup σ) (s : State σ) : Move → State σ → Prop where
  /-- Nothing. -/
  | nothing (m : Move) (idles : s.Idles m) : Effect q s m s
  /-- The worker is started. -/
  | start (stage : s.stage = .unstarted) : Effect q s (.call .start) { s with stage := .idle }
  /-- A caller asks a closed queue, and is turned away. -/
  | turnAway (send : Send) (held : s.held = true)
      (shut : s.shutdown = true ∨ s.stage.ending?.isSome = true) :
      Effect q s (.call (.enqueue send)) ({ s with asked := s.asked + 1 }.reject s.asked)
  /-- A caller asks and finds a place. -/
  | accept (send : Send) (held : s.held = true) (opened : s.shutdown = false)
      (alive : s.stage.ending? = none) (room : s.depth < q.places) :
      Effect q s (.call (.enqueue send))
        ({ s with asked := s.asked + 1 }.store ⟨s.asked, send⟩)
  /-- A caller asks and waits for a place. -/
  | lineUp (send : Send) (held : s.held = true) (opened : s.shutdown = false)
      (alive : s.stage.ending? = none) (full : q.places ≤ s.depth) :
      Effect q s (.call (.enqueue send))
        { s with asked := s.asked + 1, waiters := s.waiters ++ [⟨s.asked, send⟩] }
  /-- A caller leaves the line. -/
  | leaveLine (n : Nat) (waits : n ∈ s.inLine) :
      Effect q s (.call (.withdraw n))
        { s with
          waiters := s.waiters.filter fun e => e.ticket != n
          granted := min s.granted (s.waiters.filter fun e => e.ticket != n).length }
  /-- A caller that does not wait for a place leaves. -/
  | depart (n : Nat) (absent : n ∉ s.inLine) :
      Effect q s (.call (.withdraw n)) { s with departed := n :: s.departed }
  /-- A shutdown is asked for while the queue runs. -/
  | close (held : s.held = true) (running : s.lifecycle = .running) :
      Effect q s (.call .stop)
        { s with lifecycle := .stopping, shutdown := true }.releaseWaiters
  /-- The handle is given up. -/
  | dropHandle : Effect q s (.call .dropHandle) s.dropHandle
  /-- The worker is lost. -/
  | lose (alive : s.stage.ending? = none) : Effect q s (.call .lose) (s.leave s.loss)
  /-- A caller who was handed a place stores its entry. -/
  | store {front : List Entry} {e : Entry} {rest : List Entry}
      (granted : front.length < s.granted) (waiters : s.waiters = front ++ e :: rest) :
      Effect q s (.store front.length)
        (State.store e { s with waiters := front ++ rest, granted := s.granted - 1 })
  /-- The worker takes a step that is due, or its next step while time passes. -/
  | work {m : Move} {limit : Nat} {t : State σ}
      (own : m = .work ∨ ∃ span, m = .call (.advance span)) (work : s.work? q limit = some t)
      (calm : limit ≤ s.now ∨ s.granted = 0) : Effect q s m t
  /-- Nothing happens up to an instant, and time passes. -/
  | wait (span : Nat) (granted : s.granted = 0) (rest : s.work? q (s.now + span) = none) :
      Effect q s (.call (.advance span)) (s.moveTo (s.now + span))

namespace Effect

variable {q : Setup σ} {s : State σ}

-- A caller asks.
theorem of_enqueue (send : Send) (held : s.held = true) :
    Effect q s (.call (.enqueue send)) (s.enqueue q.places send) := by
  unfold State.enqueue
  dsimp only
  by_cases shut : (s.shutdown || s.stage.ending?.isSome) = true
  · rw [if_pos shut]
    exact turnAway send held ((Bool.or_eq_true _ _).mp shut)
  · rw [if_neg shut]
    rw [Bool.or_eq_true, not_or] at shut
    have opened := Bool.eq_false_iff.mpr shut.1
    have alive := Option.not_isSome_iff_eq_none.mp shut.2
    by_cases room : s.depth < q.places
    · rw [if_pos room]
      exact accept send held opened alive room
    · rw [if_neg room]
      exact lineUp send held opened alive (Nat.le_of_not_lt room)

-- Time passes.
theorem of_pass (span : Nat) :
    Effect q s (.call (.advance span)) (s.pass q (s.now + span)) := by
  unfold State.pass
  by_cases busy : ((s.work? q s.now).isSome || decide (0 < s.granted)) = true
  · rw [if_pos busy]
    exact nothing _ trivial
  · rw [if_neg busy]
    rw [Bool.or_eq_true, not_or, decide_eq_true_iff] at busy
    have granted : s.granted = 0 := Nat.eq_zero_of_not_pos busy.2
    cases step : s.work? q (s.now + span) with
    | some t => exact work (Or.inr ⟨span, rfl⟩) step (Or.inr granted)
    | none => exact wait span granted step

/-- A move comes to one of these. -/
theorem of_move (q : Setup σ) (m : Move) (s : State σ) : Effect q s m (s.move q m) := by
  cases m with
  | work =>
    show Effect q s .work ((s.work? q s.now).getD s)
    cases step : s.work? q s.now with
    | none => exact nothing _ trivial
    | some t => exact work (Or.inl rfl) step (Or.inl (Nat.le_refl _))
  | store before =>
    show Effect q s (.store before) (s.storeAt before)
    rcases s.storeAt_cases before with none | ⟨front, e, rest, rfl, granted, waiters⟩
    · rw [State.storeAt_of_none none]
      exact nothing _ trivial
    · rw [State.storeAt_eq granted waiters]
      exact store granted waiters
  | call c =>
    show Effect q s (.call c) (s.call q c)
    cases c with
    | start =>
      unfold State.call State.start
      dsimp only
      cases stage : s.stage with
      | unstarted => exact start stage
      | _ => exact nothing _ fun unstarted => Stage.noConfusion (stage.symm.trans unstarted)
    | enqueue send =>
      unfold State.call
      dsimp only
      by_cases held : s.held = true
      · rw [if_pos held]
        exact of_enqueue send held
      · rw [if_neg held]
        exact nothing _ (Bool.eq_false_iff.mpr held)
    | advance span => exact of_pass span
    | stop =>
      unfold State.call State.stop
      dsimp only
      by_cases held : s.held = true
      · rw [if_pos held]
        by_cases running : s.lifecycle = .running
        · rw [if_pos running]
          exact close held running
        · rw [if_neg running]
          exact nothing _ trivial
      · rw [if_neg held]
        exact nothing _ trivial
    | lose =>
      unfold State.call State.abort
      dsimp only
      cases stage : s.stage with
      | ended how => exact nothing _ trivial
      | _ => exact lose (by rw [stage]; rfl)
    | dropHandle => exact dropHandle
    | withdraw n =>
      unfold State.call State.withdraw
      dsimp only
      by_cases waits : (s.waiters.any fun e => e.ticket == n) = true
      · rw [if_pos waits]
        exact leaveLine n (State.mem_inLine.mpr waits)
      · rw [if_neg waits]
        exact depart n fun line => waits (State.mem_inLine.mp line)

end Effect

end Queue

end TxRelay
