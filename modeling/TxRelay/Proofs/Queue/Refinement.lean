import TxRelay.Proofs.Queue.Line
import TxRelay.Proofs.Queue.Tracking

/-!
# Runs Keep to the Schedule

A queue keeps to its schedule from move to move, under any schedule of the callers: what
they do is entered in the agenda at the clock's time, which changes no row that the
worker has reached, and the steps of the worker are those of the schedule.

The schedule has the calls in the order in which they are accepted, and then those in
line. So a caller that is accepted before others who wait moves up before them, and so
does one who asks and finds a place while others are about to store their entries
(`Agenda.accept`). The agenda of the moves has the same calls in the order of asking.

A crash is the one way in which the worker leaves the schedule. It is scheduled too,
and there is no way back from it.

## Main definitions

* `Queue.State.Undisturbed`: Nobody closes or aborts the queue, or leaves the line.
* `Queue.Arranged`: The calls of an agenda, in the order of acceptance.
* `Queue.Doomed`, `Queue.Lost`: A crash is scheduled, and the worker is lost to it.
* `Queue.Abides`: A queue keeps to the schedule, or its worker is lost.

## Theorems

* `Queue.Tracks.works`, `moveTo`, `start`, `lineUp`, `dropHandle`: What happens keeps to
  the schedule.
* `Queue.Arranged.eq_inOrder`: The order says which calls the schedule has.
* `Queue.Tracks.move`: Every move keeps to the schedule, but for a crash.
* `Queue.Abides.play`: So does every run.
-/

namespace TxRelay

namespace Queue

variable {σ : Type} {q : Setup σ} {world : σ} {a b : Agenda} {k : Nat} {s t : State σ}

/-- Nobody closes or aborts the queue, or leaves the line. -/
def State.Undisturbed (s : State σ) : Move → Prop
  | .call .stop => False
  | .call .lose => False
  | .call (.withdraw n) => n ∉ s.inLine
  | _ => True

/-- Nothing can happen up to an instant. -/
structure Rest (limit : Nat) (s : State σ) : Prop where
  /-- Nobody is about to store an entry. -/
  granted : s.granted = 0
  /-- The submission in flight has its next step later. -/
  due : ∀ i, s.stage.due? = some i → limit < i
  /-- A worker that waits has nothing to take, and somebody may still come. -/
  idle : s.stage = .idle → s.buffer = [] ∧ (s.held = true ∨ s.waiters ≠ [])

-- Where no place is on its way and no step is left, nothing can happen.
theorem Rest.of_work? {limit : Nat} (granted : s.granted = 0) (rest : s.work? q limit = none) :
    Rest limit s := by
  refine ⟨granted, fun i due => State.lt_due_of_rest rest due, ?_⟩
  intro idle
  simp only [State.work?, idle] at rest
  split at rest
  · exact absurd rest (by simp only [reduceCtorEq, not_false_eq_true])
  · split at rest
    · exact absurd rest (by simp only [reduceCtorEq, not_false_eq_true])
    · rename_i buffer
      refine ⟨buffer, ?_⟩
      by_cases ends : (!s.held && s.waiters.isEmpty) = true
      · rw [if_pos ends] at rest
        exact absurd rest (by simp only [reduceCtorEq, not_false_eq_true])
      · rw [Bool.and_eq_true, Bool.not_eq_true', List.isEmpty_iff, Decidable.not_and_iff_not_or_not]
          at ends
        rcases ends with held | waiters
        · exact Or.inl (eq_true_of_ne_false held)
        · exact Or.inr waiters

namespace Tracks

/-- A step of the worker keeps to the schedule, unless the submission in flight crashes,
    and then so does its row. -/
theorem works (h : Tracks q world a k s) (p : Spaced q s) {limit : Nat}
    (calm : limit ≤ s.now ∨ s.granted = 0) (work : s.work? q limit = some t) :
    (∃ k, Tracks q world a k t) ∨ ∃ j r i o text, j < k ∧ (a.rows q world)[j]? = some r ∧
      r.course.close = .crashed i text ∧ t = (s.after i o).leave (.crashed text) := by
  rcases ticket : s.stage.ticket? with _ | n
  · have idle := Step.idle_of_work? ticket work
    simp only [State.work?, idle, if_neg (Bool.eq_false_iff.mp h.line.opened)] at work
    cases buffer : s.buffer with
    | cons e rest =>
      rw [buffer] at work
      rw [← Option.some.inj work]
      exact Or.inl ⟨k + 1, h.take idle buffer⟩
    | nil =>
      rw [buffer] at work
      dsimp only at work
      by_cases ends : (!s.held && s.waiters.isEmpty) = true
      · rw [if_pos ends] at work
        rw [Bool.and_eq_true, Bool.not_eq_true', List.isEmpty_iff] at ends
        rw [← Option.some.inj work]
        exact Or.inl ⟨k, h.finish p idle buffer ends.1 ends.2⟩
      · rw [if_neg ends] at work
        exact absurd work (by simp only [reduceCtorEq, not_false_eq_true])
  · rcases Flight.of_work? ticket work with ⟨i, d, o, fate, flight, state, -, early⟩
    have settled : i ≤ s.now ∨ s.granted = 0 := by omega
    rw [state]
    cases fate with
    | on stage => exact Or.inl ⟨k, h.goesOn p flight settled⟩
    | answered r => exact Or.inl ⟨k, h.isOver p flight settled⟩
    | crash text =>
      rcases h.crashes flight with ⟨j, r, taken, here, close⟩
      exact Or.inr ⟨j, r, i, o, text, taken, here, close, rfl⟩

/-- Nothing can happen, and time passes. -/
theorem moveTo {limit : Nat} (h : Tracks q world a k s) (p : Spaced q s) (soon : s.now ≤ limit)
    (rest : Rest limit s) : Tracks q world a k (s.moveTo limit) := by
  have later : s.now ≤ (s.moveTo limit).now := Nat.le_max_left _ _
  have now : (s.moveTo limit).now = limit := Nat.max_eq_right soon
  refine ⟨h.line.later p ⟨rfl, rfl, rfl, rfl⟩ rfl rfl later (Or.inr rest.granted), ?_⟩
  cases h.work with
  | unstarted stage started none_ done =>
    exact .unstarted stage started none_ (done.same later rfl rfl rfl)
  | idle stage started began done next last =>
    rcases rest.idle stage with ⟨buffer, open_⟩
    refine .idle stage started (Nat.le_trans began later) (done.same later rfl rfl rfl) ?_ ?_
    · intro r stored
      rw [show (s.moveTo limit).buffer = [] from buffer] at stored
      exact absurd stored (Nat.lt_irrefl 0)
    · -- A worker that waits for nobody would not have waited.
      intro all dropped
      rcases open_ with held | waiters
      · rw [h.line.held, Option.isNone_iff_eq_none] at held
        exact absurd held dropped
      · exact absurd (h.line.nobody all).2 waiters
  | flying own row taken started began f =>
    have punctual : Punctual (s.moveTo limit) := by
      intro i due
      rw [now]
      exact Nat.le_of_lt (rest.due i due)
    refine .flying own row taken started (Nat.le_trans began later) ⟨f.flight, f.here, ?_, f.answers,
      f.shares, ?_, ?_, f.timely, punctual⟩
    · exact past_later later f.past
    · exact (Course.ofStage_wait q own f.punctual punctual f.timely).trans f.course
    · exact fun x mem => Nat.le_trans (f.early x mem) later
  | ended stage whole ends le done =>
    exact .ended stage whole ends (Nat.le_trans le later) (done.same later rfl rfl rfl)

-- The work is not over while the handle is held.
theorem alive (h : Tracks q world a k s) (held : s.held = true) : s.stage.ending? = none := by
  cases h.work with
  | unstarted stage _ _ _ => rw [stage]; rfl
  | idle stage _ _ _ _ _ => rw [stage]; rfl
  | flying _ _ _ _ _ f => exact Stage.ending?_of_ticket? f.flight
  | ended _ _ ends _ _ =>
    rw [h.line.held, Option.isNone_iff_eq_none] at held
    exact absurd ((a.ending_of_held q world held).symm.trans ends) nofun

/-- The worker is started. What is stored was accepted before, and is to be taken
    now. -/
theorem start (h : Tracks q world a k s) (p : Spaced q s) (stage : s.stage = .unstarted) :
    a.started = none ∧
      Tracks q world { a with started := some s.now } k { s with stage := .idle } := by
  have l := h.line
  have room := p.room
  unfold State.depth at room
  cases h.work with
  | idle stage' _ _ _ _ _ => exact absurd (stage.symm.trans stage') Stage.noConfusion
  | ended stage' _ _ _ _ => exact absurd (stage.symm.trans stage') Stage.noConfusion
  | flying _ _ _ _ _ f =>
    have flight := f.flight
    rw [stage] at flight
    exact absurd flight (by simp only [Stage.ticket?, reduceCtorEq, not_false_eq_true])
  | unstarted _ started none_ done =>
    subst none_
    refine ⟨started, ?_⟩
    -- The rows of the calls that were accepted change in their starts alone.
    have early (i : Nat) (r : Row σ) (soon : i < 0 + s.buffer.length)
        (here : (Agenda.rows q world { a with started := some s.now })[i]? = some r) :
        ∃ t, r.accepted = some t ∧ t ≤ s.now := by
      rcases Agenda.accepted_of_room (by omega) here with ⟨call, asked, accepted⟩
      exact ⟨call.asked, accepted, l.calls call (List.mem_of_getElem? asked)⟩
    refine ⟨⟨l.opened, l.held, l.entries, l.taken, l.calls, l.dropped, l.unrejected, ?_, early,
      l.waited, ?_⟩, .idle rfl rfl (Nat.le_refl _) ⟨?_, ?_, ?_, ?_⟩ ?_ ?_⟩
    · refine l.accepted.trans (Agenda.acceptances_of_room (a := a)
        (b := { a with started := some s.now }) rfl ?_).symm
      omega
    · exact fun _ _ _ i r before => absurd before (Nat.not_lt_zero i)
    · exact fun i r before => absurd before (Nat.not_lt_zero i)
    · exact done.answers
    · exact done.acts
    · exact done.chains
    · intro r stored here
      rcases early 0 r (by rw [Nat.zero_add]; exact stored) here with ⟨b, accepted, le⟩
      rw [Agenda.start_of_row (x := 0) here rfl accepted rfl]
      exact congrArg some (show max s.now (max b 0) = s.now by omega)
    · intro all dropped
      rcases Option.ne_none_iff_exists'.mp dropped with ⟨d, drop⟩
      have le := l.dropped d drop
      have nothing : lastAnswer (Agenda.rows q world { a with started := some s.now }) = some 0 := by
        have length := Agenda.length_rows q world { a with started := some s.now }
        rw [← all] at length
        rw [List.length_eq_zero_iff.mp length]
        rfl
      rw [Agenda.ending_eq rfl drop nothing]
      exact congrArg some (show max s.now (max d 0) = s.now by omega)

/-- A caller lines up. -/
theorem lineUp (h : Tracks q world a k s) (o : Orderly s) {c : Call}
    (now : c.asked = s.now) (alive : s.stage.ending? = none) (full : q.places ≤ s.depth)
    (ticket : c.ticket = s.asked) :
    Tracks q world { a with calls := a.calls ++ [c] } k
      { s with asked := s.asked + 1, waiters := s.waiters ++ [⟨s.asked, c.send⟩] } := by
  have l := h.line
  have amount := l.amount
  have placed := o.placed
  have bound : k + s.buffer.length ≤ a.calls.length := by omega
  have first {n : Nat} (few : n ≤ a.calls.length) :
      (a.calls ++ [c]).take n = a.calls.take n := List.take_append_of_le_length few
  have rows {n : Nat} (few : n ≤ a.calls.length) :
      (Agenda.rows q world { a with calls := a.calls ++ [c] }).take n = (a.rows q world).take n :=
    Agenda.take_rows rfl (first few)
  have row {i : Nat} (soon : i < a.calls.length) :
      (Agenda.rows q world { a with calls := a.calls ++ [c] })[i]? = (a.rows q world)[i]? :=
    Agenda.getElem?_rows rfl (first (Nat.le_refl _)) soon
  refine ⟨⟨l.opened, l.held, ?_, ?_, ?_, l.dropped, l.unrejected, ?_, ?_, ?_, ?_⟩, ?_⟩
  · show s.buffer ++ (s.waiters ++ [⟨s.asked, c.send⟩]) = ((a.calls ++ [c]).drop k).map Call.entry
    rw [List.drop_append_of_le_length l.taken, List.map_append, ← l.entries, ← ticket,
      List.append_assoc]
    rfl
  · show k ≤ (a.calls ++ [c]).length
    rw [List.length_append]
    omega
  · intro d mem
    rcases List.mem_append.mp mem with before | new
    · exact l.calls d before
    · rw [List.mem_singleton.mp new]
      exact Nat.le_of_eq now
  · exact l.accepted.trans (congrArg allAcceptances (rows bound).symm)
  · intro i r soon here
    have before : i < k + s.buffer.length := soon
    exact l.stored i r before ((row (by omega)).symm.trans here)
  · -- Every place is taken, by a stored entry or by somebody in line.
    intro _
    show q.places ≤ k + s.buffer.length
    unfold State.depth at full
    rcases Nat.eq_zero_or_pos s.granted with none | some_
    · omega
    · refine l.waited fun nobody => ?_
      rw [nobody] at placed
      exact absurd placed (Nat.not_le_of_lt some_)
  · intro d waits before i r taken place here
    have there : d ∈ (a.calls ++ [c]).drop (k + s.buffer.length) := waits
    rw [List.drop_append_of_le_length bound] at there
    rcases List.mem_append.mp there with old | new
    · exact l.recent d old before i r taken place ((row (by omega)).symm.trans here)
    · rw [List.mem_singleton.mp new, now] at before
      exact absurd before (Nat.lt_irrefl _)
  · have same := rows l.taken
    cases h.work with
    | unstarted stage started none_ done =>
      exact .unstarted stage started none_ ((done.of_take same).same (Nat.le_refl _) rfl rfl rfl)
    | idle stage started began done next last =>
      refine .idle stage started began ((done.of_take same).same (Nat.le_refl _) rfl rfl rfl) ?_ ?_
      · intro r some_ here
        have stored : 0 < s.buffer.length := some_
        exact next r stored ((row (by omega)).symm.trans here)
      · intro all
        have whole : k = (a.calls ++ [c]).length := all
        rw [List.length_append, List.length_singleton] at whole
        omega
    | @flying w j own r taken started began f =>
      have soon : j < a.calls.length := by omega
      exact .flying own r taken started began
        ((f.of_take (rows (Nat.le_of_lt soon)) (row soon)).same rfl rfl rfl rfl rfl)
    | ended stage _ _ _ _ =>
      rw [stage] at alive
      exact absurd alive (by simp only [Stage.ending?, reduceCtorEq, not_false_eq_true])

/-- The handle is given up. If the worker waits for nobody any more, its work is over
    now. -/
theorem dropHandle (h : Tracks q world a k s) :
    Tracks q world { a with dropped := a.dropped.or (some s.now) } k s.dropHandle := by
  have l := h.line
  cases dropped : a.dropped with
  | some d =>
    have held : s.held = false := by rw [l.held, dropped]; rfl
    rw [Option.some_or, ← dropped]
    unfold State.dropHandle
    rw [← held]
    exact h
  | none =>
    rw [Option.none_or]
    refine ⟨⟨l.opened, rfl, l.entries, l.taken, l.calls, ?_, l.unrejected, l.accepted, l.stored,
      l.waited, l.recent⟩, ?_⟩
    · exact fun d given => Nat.le_of_eq (Option.some.inj given).symm
    · cases h.work with
      | unstarted stage started none_ done =>
        have still : Done q world a k s.dropHandle := done.same (Nat.le_refl s.now) rfl rfl rfl
        exact .unstarted stage started none_ (still.of_take rfl)
      | idle stage started began done next last =>
        have still : Done q world a k s.dropHandle := done.same (Nat.le_refl s.now) rfl rfl rfl
        refine .idle stage started began (still.of_take rfl) next ?_
        intro all _
        rcases lastAnswer_of_past l.taken done.past with ⟨x, answered, le⟩
        rw [all, ← a.length_rows q world, List.take_length] at answered
        rw [Agenda.ending_eq (a := { a with dropped := some s.now }) started rfl answered]
        exact congrArg some (show _ = s.now by omega)
      | flying own row taken started began f =>
        have still : Flying q world a _ own row s.dropHandle := f.same rfl rfl rfl rfl rfl
        exact .flying own row taken started began (still.of_take rfl rfl)
      | ended _ _ ends _ _ =>
        exact absurd ((a.ending_of_held q world dropped).symm.trans ends) nofun

-- A caller leaves that does not wait for a place.
theorem depart (h : Tracks q world a k s) (p : Spaced q s) (departed : List Nat) :
    Tracks q world a k { s with departed := departed } :=
  ⟨h.line.later p ⟨rfl, rfl, rfl, rfl⟩ rfl rfl (Nat.le_refl _) (Or.inl rfl),
    h.work.same rfl rfl rfl rfl rfl rfl⟩

end Tracks

/-- The calls of an agenda in the order in which they are accepted, and then those in
    line. -/
structure Arranged (b a : Agenda) (s : State σ) : Prop where
  /-- Calls are numbered in the order of asking. -/
  numbered : b.calls.length = s.asked
  /-- The handle was given up or not. -/
  held : s.held = b.dropped.isNone
  /-- A worker that went on from its start was started. -/
  begun : s.stage ≠ .unstarted → b.started ≠ none
  /-- The worker is started at the same instant. -/
  started : a.started = b.started
  /-- So is the handle given up. -/
  dropped : a.dropped = b.dropped
  /-- The calls are the same. -/
  calls : ∀ c ∈ a.calls, b.calls[c.ticket]? = some c
  /-- This is their order. -/
  order : a.calls.map Call.ticket = s.accepted.reverse ++ s.inLine

/-- The course of some submission crashes before an instant. -/
def Doomed (q : Setup σ) (world : σ) (a : Agenda) (limit : Nat) : Prop :=
  ∃ r ∈ a.rows q world, ∃ i text, r.course.close = .crashed i text ∧ i < limit

/-- The worker is lost to a crash, and the schedule has it. -/
structure Lost (q : Setup σ) (world : σ) (b a : Agenda) (s : State σ) : Prop where
  /-- The calls are those that were accepted. -/
  arranged : Arranged b a s
  /-- The course of a submission crashes by now. -/
  doomed : Doomed q world a (s.now + 1)
  /-- The worker went away with it. -/
  crashed : ∃ text, s.stage = .ended (.crashed text)

/-- A queue keeps to the schedule of what was done from outside so far, or its worker is
    lost to a crash that is scheduled. -/
def Abides (q : Setup σ) (world : σ) (b : Agenda) (s : State σ) : Prop :=
  (∃ a k, Arranged b a s ∧ Tracks q world a k s) ∨ ∃ a, Lost q world b a s

-- Calls are found by their numbers.
theorem Agenda.filterMap_ticket (b : Agenda) {calls : List Call}
    (known : ∀ c ∈ calls, b.calls[c.ticket]? = some c) :
    (calls.map Call.ticket).filterMap (fun n => b.calls[n]?) = calls := by
  induction calls with
  | nil => rfl
  | cons c rest ih =>
    rw [List.map_cons, List.filterMap_cons_some (known c List.mem_cons_self),
      ih fun d mem => known d (List.mem_cons_of_mem c mem)]

namespace Arranged

-- The order says which calls they are.
theorem eq_inOrder (r : Arranged b a s) : a = b.inOrder (s.accepted.reverse ++ s.inLine) := by
  unfold Agenda.inOrder
  rw [← r.order, b.filterMap_ticket r.calls, ← r.started, ← r.dropped]

-- A move that comes to nothing does nothing from outside.
theorem noting_of_idles (r : Arranged b a s) {m : Move} (idles : s.Idles m) :
    b.noting s.now m = b := by
  cases m with
  | work | store => rfl
  | call c =>
    cases c with
    | advance | stop | lose => rfl
    | dropHandle | withdraw => exact absurd idles id
    | start =>
      rcases Option.ne_none_iff_exists'.mp (r.begun idles) with ⟨w, started⟩
      show { b with started := b.started.or (some s.now) } = b
      rw [started, Option.some_or, ← started]
    | enqueue send =>
      have free : b.dropped.isNone = false := r.held.symm.trans idles
      show (if b.dropped.isNone then _ else b) = b
      rw [free, if_neg Bool.false_ne_true]

-- Nobody asks and nobody is accepted, and the line stays as it is.
theorem same (r : Arranged b a s) (asked : t.asked = s.asked) (held : t.held = s.held)
    (accepted : t.accepted = s.accepted) (line : t.inLine = s.inLine)
    (begun : t.stage ≠ .unstarted → s.stage ≠ .unstarted) : Arranged b a t where
  numbered := r.numbered.trans asked.symm
  held := held.trans r.held
  begun := fun started => r.begun (begun started)
  started := r.started
  dropped := r.dropped
  calls := r.calls
  order := by
    rw [accepted, line]
    exact r.order

-- Those who were accepted come first, and then those in line.
theorem split (r : Arranged b a s) (l : Line q world a k s) :
    (a.calls.take (k + s.buffer.length)).map Call.ticket = s.accepted.reverse ∧
      (a.calls.drop (k + s.buffer.length)).map Call.ticket = s.inLine := by
  have line : (a.calls.drop (k + s.buffer.length)).map Call.ticket = s.inLine := by
    unfold State.inLine
    rw [l.split.2, List.map_map]
    rfl
  have order := r.order
  rw [← List.take_append_drop (k + s.buffer.length) a.calls, List.map_append, line] at order
  exact ⟨List.append_cancel_right order, line⟩

-- A caller that asks gets the next number.
theorem noting_enqueue (r : Arranged b a s) (held : s.held = true) (send : Send) :
    b.noting s.now (.call (.enqueue send)) =
      { b with calls := b.calls ++ [⟨s.asked, s.now, send⟩] } := by
  have open_ : b.dropped.isNone = true := r.held.symm.trans held
  rw [← r.numbered]
  exact if_pos open_

theorem asks (r : Arranged b a s) {a' : Agenda} {c : Call} (ticket : c.ticket = s.asked)
    (asked : t.asked = s.asked + 1) (held : t.held = s.held) (stage : t.stage = s.stage)
    (started : a'.started = a.started) (dropped : a'.dropped = a.dropped)
    (calls : ∀ d ∈ a'.calls, d = c ∨ d ∈ a.calls)
    (order : a'.calls.map Call.ticket = t.accepted.reverse ++ t.inLine) :
    Arranged { b with calls := b.calls ++ [c] } a' t where
  numbered := by
    show (b.calls ++ [c]).length = t.asked
    rw [List.length_append, r.numbered, asked]
    rfl
  held := held.trans r.held
  begun := by
    rw [stage]
    exact r.begun
  started := started.trans r.started
  dropped := dropped.trans r.dropped
  calls := by
    intro d mem
    show (b.calls ++ [c])[d.ticket]? = some d
    rcases calls d mem with rfl | known
    · rw [ticket, ← r.numbered, List.getElem?_concat_length]
    · have there := r.calls d known
      exact (List.getElem?_append_left (List.getElem?_eq_some_iff.mp there).1).trans there
  order := order

end Arranged

namespace Tracks

-- A caller asks and finds a place. It is accepted before all who wait in line.
theorem asks (h : Tracks q world a k s) (r : Arranged b a s) (send : Send)
    (held : s.held = true) (alive : s.stage.ending? = none) (room : s.depth < q.places) :
    ∃ a, Arranged (b.noting s.now (.call (.enqueue send))) a
        (State.store ⟨s.asked, send⟩ { s with asked := s.asked + 1 }) ∧
      Tracks q world a k (State.store ⟨s.asked, send⟩ { s with asked := s.asked + 1 }) := by
  rcases r.split h.line with ⟨before, behind⟩
  unfold State.depth at room
  refine ⟨a.accept (k + s.buffer.length) ⟨s.asked, s.now, send⟩
    (a.calls.drop (k + s.buffer.length)), ?_, ?_⟩
  · rw [r.noting_enqueue held]
    refine r.asks rfl rfl rfl rfl rfl rfl ?_ ?_
    · intro d mem
      rcases List.mem_append.mp mem with early | mem
      · exact Or.inr (List.mem_of_mem_take early)
      · exact (List.mem_cons.mp mem).imp_right List.mem_of_mem_drop
    · show (a.calls.take _ ++ _ :: a.calls.drop _).map Call.ticket =
        (s.asked :: s.accepted).reverse ++ s.inLine
      rw [List.map_append, List.map_cons, before, behind, List.reverse_cons, List.append_assoc]
      rfl
  · exact h.accepts (by omega) alive (Nat.le_refl _)
      (fun early => absurd early (Nat.lt_irrefl _)) (fun _ => id)
      ⟨rfl, rfl, rfl, rfl, h.line.split.2⟩ ⟨rfl, rfl, State.answers_store _ _⟩
      ⟨rfl, State.acts_store _ _, State.world_store _ _⟩

-- A caller who was handed a place stores its entry. It is accepted before all others who
-- wait in line.
theorem store (h : Tracks q world a k s) (r : Arranged b a s) (p : Spaced q s) (o : Orderly s)
    {front rest : List Entry} {e : Entry} (granted : front.length < s.granted)
    (waiters : s.waiters = front ++ e :: rest) :
    ∃ a, Arranged b a
        (State.store e { s with waiters := front ++ rest, granted := s.granted - 1 }) ∧
      Tracks q world a k
        (State.store e { s with waiters := front ++ rest, granted := s.granted - 1 }) := by
  rcases r.split h.line with ⟨before, -⟩
  have room := p.room
  unfold State.depth at room
  have alive : s.stage.ending? = none := by
    refine Decidable.byContradiction fun gone => ?_
    have nobody := (o.gone gone).2
    rw [waiters] at nobody
    exact absurd nobody (by simp only [List.append_eq_nil_iff, reduceCtorEq, and_false,
      not_false_eq_true])
  -- The caller and those before and after it in line are calls of the agenda.
  have line := h.line.split.2
  rw [waiters] at line
  rcases List.map_eq_append_iff.mp line.symm with ⟨first, others, drop, rfl, same⟩
  rcases List.map_eq_cons_iff.mp same with ⟨c, last, rfl, rfl, rfl⟩
  have known : ∀ d ∈ first ++ c :: last, d ∈ a.calls :=
    fun d mem => List.mem_of_mem_drop (drop ▸ mem)
  have others : first ++ last ⊆ first ++ c :: last :=
    ((List.sublist_cons_self c last).append_left first).subset
  have itself : c ∈ first ++ c :: last := List.mem_append_right _ List.mem_cons_self
  refine ⟨a.accept (k + s.buffer.length) c (first ++ last), ?_, ?_⟩
  · refine ⟨r.numbered, r.held, r.begun, r.started, r.dropped, ?_, ?_⟩
    · intro d mem
      rcases List.mem_append.mp mem with early | mem
      · exact r.calls d (List.mem_of_mem_take early)
      · rcases List.mem_cons.mp mem with rfl | waits
        · exact r.calls d (known d itself)
        · exact r.calls d (known d (others waits))
    · show (a.calls.take _ ++ c :: (first ++ last)).map Call.ticket =
        (c.ticket :: s.accepted).reverse ++
          (first.map Call.entry ++ last.map Call.entry).map Entry.ticket
      rw [List.map_append, List.map_cons, before, List.reverse_cons, List.append_assoc,
        ← List.map_append, List.map_map]
      rfl
  · refine h.accepts (by omega) alive (h.line.calls c (known c itself)) ?_ ?_
      ⟨rfl, rfl, rfl, rfl, ?_⟩ ⟨rfl, rfl, State.answers_store _ _⟩
      ⟨rfl, State.acts_store _ _, State.world_store _ _⟩
    · rw [drop]
      exact fun _ => itself
    · rw [drop]
      exact others
    · exact List.map_append.symm

-- A worker that is lost to a crash leaves those in line behind.
theorem lost (h : Tracks q world a k s) (r : Arranged b a s) {j i : Nat} {row : Row σ}
    {o : Surroundings σ} {text : String} (taken : j < k) (here : (a.rows q world)[j]? = some row)
    (close : row.course.close = .crashed i text) :
    ∃ a', a'.calls <+: a.calls ∧ Lost q world b a' ((s.after i o).leave (.crashed text)) := by
  rcases r.split h.line with ⟨before, -⟩
  have amount := h.line.amount
  have gone := Stands.leave (.crashed text) (s.after i o)
  have accepted : ((s.after i o).leave (.crashed text)).accepted = s.accepted := gone.accepted
  rcases (s.after i o).leave_shape (.crashed text) with ⟨m, shape⟩
  have rows : (Agenda.rows q world { a with calls := a.calls.take (k + s.buffer.length) })[j]? =
      (a.rows q world)[j]? :=
    Agenda.getElem?_rows rfl (List.take_of_length_le (List.length_take_le _ _)) (by omega)
  refine ⟨{ a with calls := a.calls.take (k + s.buffer.length) }, List.take_prefix _ _, ?_, ?_, text,
    ((s.after i o).leave_cleared _).2⟩
  · refine ⟨?_, ?_, ?_, r.started, r.dropped, ?_, ?_⟩
    · rw [gone.asked]
      exact r.numbered
    · rw [shape]
      exact r.held
    · intro _
      refine r.begun fun unstarted => ?_
      cases h.work with
      | unstarted _ _ none_ _ => omega
      | idle stage _ _ _ _ _ => exact Stage.noConfusion (stage.symm.trans unstarted)
      | ended stage _ _ _ _ => exact Stage.noConfusion (stage.symm.trans unstarted)
      | flying _ _ _ _ _ f =>
        have flight := f.flight
        rw [unstarted] at flight
        exact absurd flight (by simp only [Stage.ticket?, reduceCtorEq, not_false_eq_true])
    · exact fun c mem => r.calls c (List.mem_of_mem_take mem)
    · rw [accepted, before]
      unfold State.inLine
      rw [shape]
      exact (List.append_nil _).symm
  · refine ⟨row, List.mem_of_getElem? (rows.trans here), i, text, close, ?_⟩
    rw [shape]
    show i < max s.now i + 1
    omega

/-- A move keeps to the schedule, or the worker is lost to a crash that is scheduled. -/
theorem move (h : Tracks q world a k s) (r : Arranged b a s) (p : Spaced q s) (o : Orderly s)
    {m : Move} (calm : s.Undisturbed m) :
    (∃ a k, Arranged (b.noting s.now m) a (s.move q m) ∧ Tracks q world a k (s.move q m)) ∨
      ∃ a', a'.calls <+: a.calls ∧ Lost q world (b.noting s.now m) a' (s.move q m) := by
  have effect := Effect.of_move q m s
  generalize s.move q m = t at effect
  cases effect with
  | nothing m idles =>
    rw [r.noting_of_idles idles]
    exact Or.inl ⟨a, k, r, h⟩
  | start stage =>
    rcases h.start p stage with ⟨never, tracks⟩
    have never' : b.started = none := r.started.symm.trans never
    have now : b.started.or (some s.now) = some s.now := by rw [never', Option.none_or]
    refine Or.inl ⟨{ a with started := some s.now }, k,
      ⟨r.numbered, r.held, fun _ => ?_, now.symm, r.dropped, r.calls, r.order⟩, tracks⟩
    exact fun none_ => absurd (now.symm.trans none_) (Option.some_ne_none _)
  | turnAway send held shut =>
    rw [h.line.opened, h.alive held] at shut
    exact absurd shut (by simp only [Bool.false_eq_true, Option.isSome_none, or_self,
      not_false_eq_true])
  | accept send held opened alive room =>
    rcases h.asks r send held alive room with ⟨a, arranged, tracks⟩
    exact Or.inl ⟨a, k, arranged, tracks⟩
  | lineUp send held opened alive full =>
    refine Or.inl ⟨_, k, ?_, h.lineUp o (c := ⟨s.asked, s.now, send⟩) rfl alive full rfl⟩
    rw [r.noting_enqueue held]
    refine r.asks rfl rfl rfl rfl rfl rfl ?_ ?_
    · intro d mem
      exact (List.mem_append.mp mem).symm.imp_left List.mem_singleton.mp
    · show (a.calls ++ [_]).map Call.ticket =
        s.accepted.reverse ++ (s.waiters ++ [_]).map Entry.ticket
      rw [List.map_append, List.map_append, r.order, List.append_assoc]
      rfl
  | leaveLine n waits => exact absurd waits calm
  | depart n absent => exact Or.inl ⟨a, k, r.same rfl rfl rfl rfl id, h.depart p _⟩
  | close | lose => exact absurd calm id
  | dropHandle =>
    refine Or.inl ⟨{ a with dropped := a.dropped.or (some s.now) }, k,
      ⟨r.numbered, ?_, r.begun, r.started, ?_, r.calls, r.order⟩, h.dropHandle⟩
    · show false = (b.dropped.or (some s.now)).isNone
      cases b.dropped <;> rfl
    · exact congrArg (·.or (some s.now)) r.dropped
  | store granted waiters =>
    rcases h.store r p o granted waiters with ⟨a, arranged, tracks⟩
    exact Or.inl ⟨a, k, arranged, tracks⟩
  | work own work settled =>
    have same : b.noting s.now m = b := by
      rcases own with rfl | ⟨span, rfl⟩ <;> rfl
    rw [same]
    rcases h.works p settled work with ⟨k, tracks⟩ | ⟨j, row, i, o, text, taken, here, close, rfl⟩
    · have stands := Stands.work o work settled
      -- Nobody is turned away, so the line stays.
      have line : t.inLine = s.inLine := by
        rcases stands.line with ⟨same, -, -⟩ | ⟨nobody, rejected⟩
        · exact congrArg (List.map Entry.ticket) same
        · rw [tracks.line.unrejected] at rejected
          have none_ := (List.append_eq_nil_iff.mp rejected.symm).1
          rw [List.reverse_eq_nil_iff.mp none_]
          exact congrArg (List.map Entry.ticket) nobody
      refine Or.inl ⟨a, k, r.same stands.asked ?_ stands.accepted line ?_, tracks⟩
      · exact tracks.line.held.trans h.line.held.symm
      · intro _ unstarted
        rw [State.work?, unstarted] at work
        exact absurd work (by simp only [reduceCtorEq, not_false_eq_true])
    · exact Or.inr (h.lost r taken here close)
  | wait span granted rest =>
    exact Or.inl ⟨a, k, r.same rfl rfl rfl rfl id,
      h.moveTo p (Nat.le_add_right _ _) (Rest.of_work? granted rest)⟩

end Tracks

namespace Lost

-- The worker stays lost.
theorem stays (l : Lost q world b a s) {b' : Agenda} (arranged : Arranged b' a t)
    (now : s.now ≤ t.now) (stage : t.stage = s.stage) : Lost q world b' a t := by
  rcases l.doomed with ⟨r, mem, i, text, close, soon⟩
  exact ⟨arranged, ⟨r, mem, i, text, close, by omega⟩, by rw [stage]; exact l.crashed⟩

-- There is no way back from a crash.
theorem move (l : Lost q world b a s) (o : Orderly s) {m : Move} (calm : s.Undisturbed m) :
    ∃ a', a'.calls = a.calls ∧ Lost q world (b.noting s.now m) a' (s.move q m) := by
  rcases l.crashed with ⟨text, crashed⟩
  have r := l.arranged
  have gone : s.stage.ending? ≠ none := by
    rw [crashed]
    exact Option.some_ne_none _
  have effect := Effect.of_move q m s
  generalize s.move q m = t at effect
  cases effect with
  | nothing m idles =>
    rw [r.noting_of_idles idles]
    exact ⟨a, rfl, l⟩
  | start stage => exact Stage.noConfusion (crashed.symm.trans stage)
  | turnAway send held shut =>
    rw [r.noting_enqueue held]
    refine ⟨a, rfl, l.stays ?_ (Nat.le_refl s.now) rfl⟩
    exact r.asks rfl rfl rfl rfl rfl rfl (fun _ => Or.inr) r.order
  | accept send held opened alive room => exact absurd alive gone
  | lineUp send held opened alive full => exact absurd alive gone
  | leaveLine n waits => exact absurd waits calm
  | depart n absent =>
    exact ⟨a, rfl, l.stays (r.same rfl rfl rfl rfl id) (Nat.le_refl s.now) rfl⟩
  | close | lose => exact absurd calm id
  | dropHandle =>
    refine ⟨{ a with dropped := a.dropped.or (some s.now) }, rfl,
      ⟨r.numbered, ?_, r.begun, r.started, ?_, r.calls, r.order⟩, l.doomed, l.crashed⟩
    · show false = (b.dropped.or (some s.now)).isNone
      cases b.dropped <;> rfl
    · exact congrArg (·.or (some s.now)) r.dropped
  | store granted waiters =>
    have placed := o.placed
    rw [(o.gone gone).2, List.length_nil] at placed
    omega
  | work own work settled =>
    rw [State.work?, crashed] at work
    exact absurd work (by simp only [reduceCtorEq, not_false_eq_true])
  | wait span granted rest =>
    exact ⟨a, rfl, l.stays (r.same rfl rfl rfl rfl id) (Nat.le_max_left _ _) rfl⟩

end Lost

-- A queue nobody used yet has nothing to keep to.
theorem Abides.fresh (q : Setup σ) (world : σ) :
    Abides q world .empty (State.fresh (.fresh world)) := by
  refine Or.inl ⟨.empty, 0, ⟨rfl, rfl, fun started => absurd rfl started, rfl, rfl, fun _ => nofun,
    rfl⟩, ⟨rfl, rfl, rfl, Nat.le_refl 0, fun _ => nofun, fun _ => nofun, rfl, rfl, ?_, ?_, ?_⟩,
    .unstarted rfl rfl rfl ⟨?_, rfl, rfl, rfl⟩⟩
  · exact fun i r soon => absurd soon (Nat.not_lt_zero i)
  · exact fun waits => absurd rfl waits
  · exact fun _ => nofun
  · exact fun i r soon => absurd soon (Nat.not_lt_zero i)

/-- Every move keeps to the schedule, unless a crash is scheduled. -/
theorem Abides.move (h : Abides q world b s) (p : Spaced q s) (o : Orderly s) {m : Move}
    (calm : s.Undisturbed m) : Abides q world (b.noting s.now m) (s.move q m) := by
  rcases h with ⟨a, k, arranged, tracks⟩ | ⟨a, lost⟩
  · rcases tracks.move arranged p o calm with kept | ⟨a', -, lost⟩
    · exact Or.inl kept
    · exact Or.inr ⟨a', lost⟩
  · rcases lost.move o calm with ⟨a', -, lost⟩
    exact Or.inr ⟨a', lost⟩

/-- So does every run. -/
theorem Abides.play {moves : List Move} (h : Abides q world b s) (p : Spaced q s) (o : Orderly s)
    (calm : s.Along q State.Undisturbed moves) :
    Abides q world (s.agenda q moves b) (s.play q moves) := by
  induction moves generalizing b s with
  | nil => exact h
  | cons m rest ih =>
    exact ih (h.move p o calm.1) (p.move m) (State.orderly_play q [m] o) calm.2

end Queue

end TxRelay
