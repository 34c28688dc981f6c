import TxRelay.Proofs.Queue.Matching

/-!
# The Queue is Sequential

Whatever callers, the worker and timers do at once, a queue that nobody closes or
aborts and whose callers do not give up waiting for a place does what its schedule
says, when it says it, and nothing else.

The schedule has the calls in the order in which they are accepted. This is the order
of asking as long as nobody asks while a place is on its way, and those who were handed
places store their entries in line. Between commands this is so, since each is given
when nothing more can happen at that instant, and then the schedule can be told from
the commands alone. Otherwise a newcomer can be accepted before callers in line who were
handed places at that instant, and then is worked on before them.

## Main definitions

* `Queue.State.Crashed`: The worker is lost to a crash.
* `Queue.Follows`: A queue does what a schedule says.
* `Queue.InTurn`: Nobody was overtaken.
* `Queue.Obeys`: A queue keeps to the order of asking.

## Theorems

* `Queue.follows_play`: Every run follows the order of acceptance.
* `Queue.follows_asking`: If nobody overtakes, it follows the order of asking.
* `Queue.AtRest.run_agenda`: The agenda of a run made of commands is that of its
  commands.
* `Queue.one_at_a_time`: Submissions are worked on one at a time.
* `Queue.runs_match_schedule`: Every run matches its schedule.
* `Queue.newcomer_worked_on_first`: A run that does not match the order of asking.
-/

namespace TxRelay

namespace Queue

variable {σ : Type} {q : Setup σ} {world : σ} {a b : Agenda} {s : State σ}

/-- The worker is lost to a crash. -/
def State.Crashed (s : State σ) : Prop :=
  ∃ text, s.stage = .ended (.crashed text)

/-- A queue does what a schedule says. -/
structure Follows (q : Setup σ) (world : σ) (a : Agenda) (s : State σ) : Prop where
  /-- Submissions do not overlap. -/
  serial : Serial (a.rows q world)
  /-- The worker is lost to a crash only if the schedule has it. -/
  crashed : s.Crashed → Doomed q world a (s.now + 1)
  /-- If the schedule has it, the worker is lost. -/
  doomed : ∀ limit, s.Through q limit → Doomed q world a limit → s.Crashed
  /-- Otherwise everything is as the schedule says. -/
  fine : ∀ limit, s.Through q limit → ¬s.Crashed → Matches q world a limit s

namespace Follows

-- A queue that keeps to a schedule does what it says.
theorem of_tracks {k : Nat} (h : Tracks q world a k s) (p : Spaced q s) : Follows q world a s := by
  refine ⟨serial_schedule q world a.started a.calls, ?_, ?_, ?_⟩
  · rintro ⟨text, crashed⟩
    have ends := ((h.matches_ p (Or.inl (Nat.le_refl s.now))).ended _ crashed).1
    exact absurd ends Ending.noConfusion
  · exact fun limit through doomed => absurd doomed (h.not_doomed p through)
  · exact fun limit through _ => h.matches_ p through

-- So does one that is lost to a crash which it has.
theorem of_crash (crashed : s.Crashed) (doomed : Doomed q world a (s.now + 1)) :
    Follows q world a s :=
  ⟨serial_schedule q world a.started a.calls, fun _ => doomed, fun _ _ _ => crashed,
    fun _ _ fine => absurd crashed fine⟩

end Follows

-- A queue that keeps to the schedule follows the order in which calls are accepted.
theorem Abides.follows (h : Abides q world b s) (p : Spaced q s) :
    Follows q world (b.inOrder (s.accepted.reverse ++ s.inLine)) s := by
  rcases h with ⟨a, k, arranged, tracks⟩ | ⟨a, lost⟩
  · rw [← arranged.eq_inOrder]
    exact .of_tracks tracks p
  · rw [← lost.arranged.eq_inOrder]
    exact .of_crash lost.crashed lost.doomed

/-- Every run follows the order in which calls are accepted. -/
theorem follows_play (q : Setup σ) (world : σ) {moves : List Move}
    (calm : (State.fresh (.fresh world)).Along q State.Undisturbed moves) :
    let s := (State.fresh (.fresh world)).play q moves
    Follows q world (((State.fresh (.fresh world)).agenda q moves .empty).inOrder
      (s.accepted.reverse ++ s.inLine)) s :=
  ((Abides.fresh q world).play (.fresh q _) (.fresh _) calm).follows (Spaced.play q moves _)

section Asking

variable {m : Move}

/-- Nobody was overtaken, and nobody left the line. -/
structure InTurn (q : Setup σ) (s : State σ) : Prop where
  /-- Everybody was accepted in the order of asking. -/
  listed : Listed s
  /-- The line is in order. -/
  inOrder : InOrder s
  /-- The places are accounted for. -/
  spaced : Spaced q s
  /-- The queue is in order. -/
  orderly : Orderly s
  /-- Everybody who asked is accounted for. -/
  settled : s.Settled []

namespace InTurn

theorem fresh (q : Setup σ) (world : σ) : InTurn q (State.fresh (.fresh world)) :=
  ⟨.fresh world, .fresh _, .fresh q _, .fresh _, fun _ => rfl⟩

theorem move (i : InTurn q s) (calm : s.Undisturbed m) (fair : ¬s.Overtakes m) :
    InTurn q (s.move q m) := by
  have stays : s.quitter? m = none := by
    unfold State.Undisturbed at calm
    unfold State.quitter?
    split
    · exact if_neg calm
    · rfl
  have settled := i.settled.move q m i.orderly
  rw [stays] at settled
  exact ⟨i.listed.move q m fair i.inOrder i.spaced i.orderly,
    i.inOrder.move q m i.spaced i.orderly, i.spaced.move m, State.orderly_play q [m] i.orderly,
    settled⟩

-- If nobody is turned away, everybody was accepted or is in line, in the order of asking.
theorem everybody (i : InTurn q s) (unrejected : s.rejected = []) :
    s.accepted.reverse ++ s.inLine = List.range s.asked := by
  have perm : (s.accepted.reverse ++ s.inLine).Perm (List.range s.asked) := by
    refine List.perm_iff_count.mpr fun n => ?_
    have one := i.settled n
    rw [unrejected, List.count_nil] at one
    rw [List.count_append, List.count_reverse, List.count_range]
    exact one
  have sorted : (s.accepted.reverse ++ s.inLine).Pairwise (· < ·) :=
    List.pairwise_append.mpr ⟨List.pairwise_reverse.mpr i.listed.accepted, i.inOrder.line,
      fun m early n waits => i.listed.inLine n waits m (List.mem_reverse.mp early)⟩
  exact List.Perm.eq_of_pairwise (fun _ _ _ _ less more => absurd more (Nat.lt_asymm less)) sorted
    List.pairwise_lt_range perm

end InTurn

-- The calls of an agenda, one after another.
theorem Agenda.inOrder_range (b : Agenda) : b.inOrder (List.range b.calls.length) = b := by
  have all {α : Type} (l : List α) :
      (List.range l.length).filterMap (fun n => l[n]?) = l := by
    induction l with
    | nil => rfl
    | cons x rest ih =>
      rw [List.length_cons, List.range_succ_eq_map,
        @List.filterMap_cons_some _ _ (fun n => (x :: rest)[n]?) 0 _ x rfl, List.filterMap_map]
      exact congrArg (List.cons x) ih
  unfold Agenda.inOrder
  rw [all]

-- Then this is the order of acceptance.
theorem Arranged.eq_of_inTurn (r : Arranged b a s) (i : InTurn q s)
    (unrejected : s.rejected = []) : a = b := by
  rw [r.eq_inOrder, i.everybody unrejected, ← r.numbered]
  exact b.inOrder_range

-- Calls are added at the end.
theorem Agenda.calls_noting (now : Nat) (m : Move) (b : Agenda) :
    b.calls <+: (b.noting now m).calls := by
  cases m with
  | work | store => exact List.prefix_rfl
  | call c =>
    cases c with
    | enqueue send =>
      show b.calls <+: (if b.dropped.isNone then _ else b).calls
      split
      · exact List.prefix_append _ _
      · exact List.prefix_rfl
    | _ => exact List.prefix_rfl

-- More calls do not undo a crash.
theorem Doomed.of_prefix {limit : Nat} (doomed : Doomed q world a limit)
    (started : a.started = b.started) (first : a.calls <+: b.calls) :
    Doomed q world b limit := by
  rcases doomed with ⟨r, mem, i, text, close, soon⟩
  rcases List.getElem?_of_mem mem with ⟨n, here⟩
  have calls : b.calls.take a.calls.length = a.calls.take a.calls.length := by
    rw [List.take_length]
    exact (List.prefix_iff_eq_take.mp first).symm
  have row : (b.rows q world)[n]? = (a.rows q world)[n]? :=
    Agenda.getElem?_rows started.symm calls (a.lt_of_row here)
  exact ⟨r, List.mem_of_getElem? (row.trans here), i, text, close, soon⟩

/-- A queue keeps to the schedule of the calls in the order of asking, or its worker is
    lost to a crash that this has. -/
def Obeys (q : Setup σ) (world : σ) (b : Agenda) (s : State σ) : Prop :=
  (∃ k, Arranged b b s ∧ Tracks q world b k s) ∨ ∃ a, a.calls <+: b.calls ∧ Lost q world b a s

namespace Obeys

/-- Moves that overtake nobody keep to the order of asking. -/
theorem move (h : Obeys q world b s) (i : InTurn q s) (calm : s.Undisturbed m)
    (fair : ¬s.Overtakes m) : Obeys q world (b.noting s.now m) (s.move q m) := by
  have more := b.calls_noting s.now m
  rcases h with ⟨k, arranged, tracks⟩ | ⟨a, first, lost⟩
  · rcases tracks.move arranged i.spaced i.orderly calm with ⟨a, k, arranged, tracks⟩ |
      ⟨a, first, lost⟩
    · obtain rfl := arranged.eq_of_inTurn (i.move calm fair) tracks.line.unrejected
      exact Or.inl ⟨k, arranged, tracks⟩
    · exact Or.inr ⟨a, first.trans more, lost⟩
  · rcases lost.move i.orderly calm with ⟨a', same, lost⟩
    exact Or.inr ⟨a', (same ▸ first).trans more, lost⟩

theorem play {moves : List Move} (h : Obeys q world b s) (i : InTurn q s)
    (calm : s.Along q (fun u m => u.Undisturbed m ∧ ¬u.Overtakes m) moves) :
    Obeys q world (s.agenda q moves b) (s.play q moves) := by
  induction moves generalizing b s with
  | nil => exact h
  | cons m rest ih =>
    exact ih (h.move i calm.1.1 calm.1.2) (i.move calm.1.1 calm.1.2) calm.2

theorem fresh (q : Setup σ) (world : σ) : Obeys q world .empty (State.fresh (.fresh world)) := by
  rcases Abides.fresh q world with ⟨a, k, arranged, tracks⟩ | ⟨a, lost⟩
  · obtain rfl := arranged.eq_of_inTurn (.fresh q world) rfl
    exact Or.inl ⟨k, arranged, tracks⟩
  · exact absurd lost.crashed nofun

theorem follows (h : Obeys q world b s) (p : Spaced q s) : Follows q world b s := by
  rcases h with ⟨k, -, tracks⟩ | ⟨a, first, lost⟩
  · exact .of_tracks tracks p
  · exact .of_crash lost.crashed (lost.doomed.of_prefix lost.arranged.started first)

end Obeys

/-- Every run in which nobody overtakes follows the order of asking. -/
theorem follows_asking (q : Setup σ) (world : σ) {moves : List Move}
    (calm : (State.fresh (.fresh world)).Along q
      (fun u m => u.Undisturbed m ∧ ¬u.Overtakes m) moves) :
    Follows q world ((State.fresh (.fresh world)).agenda q moves .empty)
      ((State.fresh (.fresh world)).play q moves) :=
  ((Obeys.fresh q world).play (.fresh q world) calm).follows (Spaced.play q moves _)

end Asking

section Commands

-- Agendas go on where those before them ended.
theorem State.agenda_append (q : Setup σ) (first second : List Move) (s : State σ) (b : Agenda) :
    s.agenda q (first ++ second) b = (s.play q first).agenda q second (s.agenda q first b) := by
  induction first generalizing s b with
  | nil => rfl
  | cons m rest ih => exact ih (s.move q m) (b.noting s.now m)

-- What happens without a call from outside is nothing to the agenda, and disturbs nobody.
theorem Move.noted_of_alone {m : Move} (alone : m.alone = true) :
    s.Undisturbed m ∧ b.noting s.now m = b := by
  cases m with
  | work | store => exact ⟨trivial, rfl⟩
  | call c =>
    cases c with
    | advance span => exact ⟨trivial, rfl⟩
    | _ => exact absurd alone Bool.false_ne_true

theorem State.noted_of_alone {moves : List Move} (alone : ∀ m ∈ moves, m.alone = true)
    (timely : s.Along q State.Timely moves) :
    s.Along q (fun u m => u.Undisturbed m ∧ ¬u.Overtakes m) moves ∧ s.agenda q moves b = b := by
  induction moves generalizing s with
  | nil => exact ⟨trivial, rfl⟩
  | cons m rest ih =>
    rcases Move.noted_of_alone (s := s) (b := b) (alone m List.mem_cons_self) with ⟨calm, same⟩
    rcases ih (fun n mem => alone n (List.mem_cons_of_mem m mem)) timely.2 with ⟨along, still⟩
    refine ⟨⟨⟨calm, timely.1.fair⟩, along⟩, ?_⟩
    unfold State.agenda
    rw [same]
    exact still

-- What is done from outside takes no time, unless time is let pass.
theorem State.now_call {c : Command} (instant : c.span? = none) : (s.call q c).now = s.now := by
  show (s.move q (.call c)).now = s.now
  have effect := Effect.of_move q (.call c) s
  generalize s.move q (.call c) = t at effect
  cases effect with
  | close held running =>
    rcases s.close_shape with ⟨m, shape⟩
    rw [shape]
    rfl
  | lose alive =>
    rcases s.leave_shape s.loss with ⟨m, shape⟩
    rw [shape]
    rfl
  | work own work calm =>
    rcases own with same | ⟨span, same⟩
    · exact absurd same Move.noConfusion
    · rw [Move.call.inj same] at instant
      exact absurd instant (Option.some_ne_none span)
  | wait span => exact absurd instant (Option.some_ne_none span)
  | _ => rfl

namespace AtRest

-- A command is done and takes its time.
theorem perform_agenda (b : Agenda) {c : Command} (rest : AtRest q s)
    (calm : s.Undisturbed (.call c)) :
    ∃ moves, s.Along q (fun u m => u.Undisturbed m ∧ ¬u.Overtakes m) moves ∧
      s.perform q c = s.play q moves ∧ s.agenda q moves b = b.after s.now c ∧
      (s.perform q c).now = s.now + c.span?.getD 0 := by
  cases advances : c.span? with
  | some span =>
    obtain rfl := Command.eq_advance advances
    rcases State.perform_timely (q := q) (.advance span) rest.orderly with
      ⟨moves, known, timely, same⟩
    have alone : ∀ m ∈ moves, m.alone = true := by
      intro m mem
      rcases known m mem with rfl | alone
      · rfl
      · exact alone
    rcases State.noted_of_alone (b := b) alone (timely rest.granted) with ⟨along, noted⟩
    refine ⟨moves, along, same, noted, ?_⟩
    exact Nat.max_eq_right (State.runTo_eq_play rest.orderly (Nat.le_add_right _ _)).2
  | none =>
    have orderly := State.orderly_call (q := q) c rest.orderly
    rcases State.runTo_timely (q := q) orderly (Nat.le_refl _) with
      ⟨⟨moves, alone, timely, same⟩, early⟩
    rcases State.noted_of_alone (b := b.after s.now c) alone timely with ⟨along, noted⟩
    have fair : s.Timely (.call c) := rest.granted
    rw [rest.perform_eq advances]
    refine ⟨.call c :: moves, ⟨⟨calm, fair.fair⟩, along⟩, same, noted, ?_⟩
    exact (Nat.le_antisymm early (State.now_le_runTo q _ _)).trans (State.now_call advances)

/-- A run made of commands overtakes nobody, and its agenda is that of the commands. -/
theorem run_agenda (b : Agenda) {commands : List Command} (rest : AtRest q s)
    (stop : Command.stop ∉ commands) (lose : Command.lose ∉ commands)
    (patient : ∀ before n behind, commands = before ++ .withdraw n :: behind →
      n ∉ (s.run q before).inLine) :
    ∃ moves, s.Along q (fun u m => u.Undisturbed m ∧ ¬u.Overtakes m) moves ∧
      s.run q commands = s.play q moves ∧
      s.agenda q moves b = Agenda.continued s.now commands b ∧
      (s.run q commands).now = s.now + Agenda.span commands := by
  induction commands generalizing s b with
  | nil => exact ⟨[], trivial, rfl, rfl, rfl⟩
  | cons c others ih =>
    have calm : s.Undisturbed (.call c) := by
      cases c with
      | stop => exact absurd List.mem_cons_self stop
      | lose => exact absurd List.mem_cons_self lose
      | withdraw n => exact patient [] n others rfl
      | _ => trivial
    rcases rest.perform_agenda b calm with ⟨moves, along, same, noted, now⟩
    rcases ih (b.after s.now c) (rest.perform c) (fun mem => stop (List.mem_cons_of_mem c mem))
      (fun mem => lose (List.mem_cons_of_mem c mem))
      (fun before n behind split => patient (c :: before) n behind (congrArg (List.cons c) split))
      with ⟨more, along', others_, noted', later⟩
    rw [same] at along' noted'
    refine ⟨moves ++ more, State.along_append.mpr ⟨along, along'⟩, ?_, ?_, ?_⟩
    · rw [State.play_append, ← same]
      exact others_
    · rw [State.agenda_append, noted, noted', ← same, now]
      rfl
    · refine later.trans ?_
      rw [now, Nat.add_assoc]
      rfl

-- When a run made of commands is at rest, now is through.
theorem through (rest : AtRest q s) : s.Through q (s.now + 1) := by
  rcases State.rest_of_step? (Nat.le_refl s.now) rest.still with ⟨still, granted, -⟩
  exact Or.inr ⟨rfl, still, granted⟩

end AtRest

end Commands

-- Submissions are worked on one at a time: at every moment of every run, each
-- submission whose send operation began was answered or is the one in flight.
theorem one_at_a_time (q : Setup σ) (world : σ) (moves : List Move) (n : Nat)
    (began : n ∈ ((State.fresh (.fresh world)).play q moves).sent) :
    n ∈ ((State.fresh (.fresh world)).play q moves).answered ∨
      ((State.fresh (.fresh world)).play q moves).stage.ticket? = some n := by
  have l := Ledger.play q moves world
  have taken := l.taken n
  have balance := l.balance n
  have some_ := List.count_pos_iff.mpr began
  unfold State.inHand at balance
  rw [List.count_append] at balance
  by_cases answered : n ∈ ((State.fresh (.fresh world)).play q moves).answered
  · exact Or.inl answered
  · rw [List.count_eq_zero.mpr answered] at balance
    have flight := List.count_pos_iff.mp (show 0 < List.count n
      ((State.fresh (.fresh world)).play q moves).stage.ticket?.toList by omega)
    exact Or.inr (Option.mem_toList.mp flight)

/-- Every run of a queue that nobody closes or aborts, and in which no caller gives up
    waiting for a place, does what its schedule says, with the calls in the order in which
    they are accepted. If nobody overtakes, this is the order of asking. So it is in runs
    made of commands, which have the agenda of their commands, take the time that these
    let pass, and do all that can be done by then. Submissions are worked on one at a time
    in any run. -/
theorem runs_match_schedule (q : Setup σ) (world : σ) :
    let fresh := State.fresh (.fresh world)
    (∀ moves, fresh.Along q State.Undisturbed moves →
      let s := fresh.play q moves
      Follows q world
        ((fresh.agenda q moves .empty).inOrder (s.accepted.reverse ++ s.inLine)) s) ∧
    (∀ moves, fresh.Along q (fun u m => u.Undisturbed m ∧ ¬u.Overtakes m) moves →
      Follows q world (fresh.agenda q moves .empty) (fresh.play q moves)) ∧
    (∀ commands, Command.stop ∉ commands → Command.lose ∉ commands →
      (∀ before n behind, commands = before ++ .withdraw n :: behind →
        n ∉ (fresh.run q before).inLine) →
      let s := fresh.run q commands
      Follows q world (Agenda.of commands) s ∧ s.Through q (s.now + 1) ∧
        s.now = Agenda.span commands) ∧
    ∀ moves, ∀ n ∈ (fresh.play q moves).sent,
      n ∈ (fresh.play q moves).answered ∨ (fresh.play q moves).stage.ticket? = some n := by
  refine ⟨fun moves => follows_play q world, fun moves => follows_asking q world, ?_,
    one_at_a_time q world⟩
  intro commands stop lose patient
  have rest : AtRest q (State.fresh (.fresh world)) := .fresh q world
  rcases rest.run_agenda .empty stop lose patient with ⟨moves, calm, same, noted, now⟩
  refine ⟨?_, (rest.run commands).through, now.trans (Nat.zero_add _)⟩
  rw [same, show Agenda.of commands = _ from noted.symm]
  exact follows_asking q world calm

/-- Two calls for one place, a late start, and time for both of them to fail. -/
def twoCalls : List Command :=
  [.enqueue (.direct (.after 3 (.failure (.timeout "first")))),
    .enqueue (.direct (.after 2 (.failure (.timeout "second")))), .advance 4, .start, .advance 9,
    .dropHandle]

/-- A send operation that fails after a while. -/
def failing (span : Nat) : Send :=
  .direct (.after span (.failure .queueClosed))

/-- A caller waits for one of two places. Both become free at one instant, and one of them
    is handed to it; but a newcomer takes the other and stores its entry first. -/
def newcomer : List Move :=
  [.call .start, .call (.enqueue (failing 10)), .work, .call (.enqueue (failing 0)),
    .call (.enqueue (failing 5)), .call (.enqueue (failing 1)), .call (.advance 10), .work, .work,
    .work, .call (.enqueue (failing 100)), .store 0, .call (.advance 5), .work,
    .call (.advance 100), .work]

-- The second of two calls is accepted when the first is taken up, and taken up when the
-- first is answered. And whoever was overtaken is taken up when the newcomer is answered.
theorem two_calls_on_schedule :
    ((State.fresh (.fresh ())).run Setup.mute twoCalls).acceptances = [(4, 1), (0, 0)] ∧
      ((State.fresh (.fresh ())).run Setup.mute twoCalls).outside.acts =
        [(7, .send 1), (4, .send 0)] ∧
      ((State.fresh (.fresh ())).run Setup.mute twoCalls).answers =
        [(9, 1, .failed (.timeout "second")), (7, 0, .failed (.timeout "first"))] ∧
      ((State.fresh (.fresh ())).run Setup.mute twoCalls).stage = .ended .finished ∧
      ((State.fresh (.fresh ())).play Setup.narrow newcomer).outside.acts =
        [(115, .send 3), (15, .send 4), (10, .send 2), (10, .send 1), (0, .send 0)] ∧
      Kept 10 10 ((State.fresh (.fresh ())).play Setup.narrow (newcomer.take 10)).outside.acts
        [(15, .send 3), (10, .send 2), (10, .send 1), (0, .send 0)] := by
  have stop : Command.stop ∉ twoCalls := by
    unfold twoCalls
    simp only [List.mem_cons, reduceCtorEq, List.not_mem_nil, or_self, not_false_eq_true]
  have lose : Command.lose ∉ twoCalls := by
    unfold twoCalls
    simp only [List.mem_cons, reduceCtorEq, List.not_mem_nil, or_self, not_false_eq_true]
  have quiet (n : Nat) : Command.withdraw n ∉ twoCalls := by
    unfold twoCalls
    simp only [List.mem_cons, reduceCtorEq, List.not_mem_nil, or_self, not_false_eq_true]
  have calm : (State.fresh (.fresh ())).Along Setup.narrow State.Undisturbed newcomer := by
    unfold newcomer
    simp only [State.Along, State.Undisturbed, and_self]
  rcases (runs_match_schedule Setup.mute ()).2.2.1 twoCalls stop lose
    (fun before n behind same => absurd
      (same ▸ List.mem_append_right before List.mem_cons_self) (quiet n)) with
    ⟨follows, through, clock⟩
  have clock : ((State.fresh (.fresh ())).run Setup.mute twoCalls).now = 13 := clock
  -- No course in the schedule crashes.
  have alive : ¬((State.fresh (.fresh ())).run Setup.mute twoCalls).Crashed := by
    intro crashed
    rcases follows.crashed crashed with ⟨r, mem, i, text, crash, -⟩
    rcases List.mem_cons.mp mem with rfl | mem
    · exact absurd crash Close.noConfusion
    · rw [List.mem_singleton.mp mem] at crash
      exact absurd crash Close.noConfusion
  have m := follows.fine _ through alive
  have late := ((runs_match_schedule Setup.narrow ()).1 newcomer calm).fine 116
    (Or.inr ⟨rfl, rfl, rfl⟩) (by rintro ⟨text, ⟨⟩⟩)
  -- Before the newcomer asks nobody overtakes.
  have fair : (State.fresh (.fresh ())).Along Setup.narrow
      (fun u m => u.Undisturbed m ∧ ¬u.Overtakes m) (newcomer.take 10) :=
    ⟨⟨trivial, id⟩, ⟨trivial, Nat.lt_irrefl 0⟩, ⟨trivial, id⟩, ⟨trivial, Nat.lt_irrefl 0⟩,
      ⟨trivial, Nat.lt_irrefl 0⟩, ⟨trivial, Nat.lt_irrefl 0⟩, ⟨trivial, id⟩, ⟨trivial, id⟩,
      ⟨trivial, id⟩, ⟨trivial, id⟩, trivial⟩
  have sound : ¬((State.fresh (.fresh ())).play Setup.narrow (newcomer.take 10)).Crashed := by
    rintro ⟨text, ⟨⟩⟩
  have early := ((runs_match_schedule Setup.narrow ()).2.1 (newcomer.take 10) fair).fine 10
    (Or.inl (Nat.le_refl 10)) sound
  refine ⟨?_, ?_, ?_, m.gone 13 rfl (by rw [clock]; exact Nat.lt_succ_self 13),
    late.acts.eq_upTo, early.acts⟩
  · rw [m.accepted.eq_upTo, clock]
    rfl
  · rw [m.acts.eq_upTo, clock]
    rfl
  · rw [m.answers.eq_upTo, clock]
    rfl

/-- The schedule of the calls in the order of asking is not kept if somebody overtakes: the
    caller that was overtaken would be taken up a hundred milliseconds earlier. And a queue
    with too many places cannot be made at all. -/
theorem newcomer_worked_on_first :
    refusal? (Nat.pow 2 61) ≠ none ∧
    let fresh : State Unit := State.fresh (.fresh ())
    fresh.Along Setup.narrow State.Undisturbed newcomer ∧
      (((fresh.agenda Setup.narrow newcomer .empty).rows Setup.narrow ())[3]?.bind Row.start =
        some 15) ∧
      (15, Act.send 3) ∉ (fresh.play Setup.narrow newcomer).outside.acts ∧
      (115, Act.send 3) ∈ (fresh.play Setup.narrow newcomer).outside.acts := by
  have acts : ((State.fresh (.fresh ())).play Setup.narrow newcomer).outside.acts =
      [(115, .send 3), (15, .send 4), (10, .send 2), (10, .send 1), (0, .send 0)] := rfl
  refine ⟨?_, ?_, rfl, ?_, ?_⟩
  · unfold refusal?
    rw [if_neg (by decide)]
    exact Option.some_ne_none _
  · unfold newcomer
    simp only [State.Along, State.Undisturbed, and_self]
  · rw [acts]
    decide
  · rw [acts]
    exact List.mem_cons_self

end Queue

end TxRelay
