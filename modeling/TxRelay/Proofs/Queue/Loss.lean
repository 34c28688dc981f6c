import TxRelay.Proofs.Queue.Readings
import TxRelay.Proofs.Queue.Shutdown

/-!
# The Loss of the Worker

A worker is lost when a send operation or a lookup takes it down, when it is
aborted, or when it is dropped before it was started. Nobody asked for a shutdown
then, so nothing releases the callers but the loss itself.

What the loss does, it does in one step: what the worker had in hand is answered
as missing, everybody in line is turned away, whether a place was handed to them
or not, and the queue is shown as stopped and empty. Nothing of that can be undone.
Afterwards callers are turned away at once, and nothing else is told, sent or looked
up any more, however the run goes on.

## Main definitions

* `Queue.Collapse`: What the loss of the worker does at once.
* `Queue.Deserted`: A queue whose worker was lost.
* `Queue.Aftermath`: What remains so from then on.

## Theorems

* `Queue.Step.loses`: A step in which the worker is lost.
* `Queue.Deserted.kept`: A queue without a worker stays so.
* `Queue.loss_is_contained`: What a loss does, in every run.
-/

namespace TxRelay

namespace Queue

variable {σ : Type} {q : Setup σ} {s t : State σ} {h : List (Nat × Happening)} {how : Ending}

/-- A queue whose worker was lost: it is shown as stopped, and holds nothing. -/
structure Deserted (how : Ending) (s : State σ) : Prop where
  /-- The worker is gone. -/
  stage : s.stage = .ended how
  /-- The queue is shown as stopped. -/
  stopped : s.lifecycle = .stopped
  /-- Nothing is stored. -/
  buffer : s.buffer = []
  /-- Nobody waits for a place. -/
  waiters : s.waiters = []
  /-- Nobody was handed one. -/
  granted : s.granted = 0
  /-- The gauge shows that nothing is stored. -/
  gauge : s.outside.metrics.queueDepth = 0

namespace Deserted

-- A worker that goes away leaves a deserted queue.
theorem leave (how : Ending) (s : State σ) : Deserted how (s.leave how) := by
  rcases s.leave_written how with ⟨e, shape⟩
  rw [shape]
  exact ⟨rfl, rfl, rfl, rfl, rfl, rfl⟩

theorem depth (d : Deserted how s) : s.depth = 0 := by
  unfold State.depth
  rw [d.buffer, d.granted]
  rfl

theorem enqueue (d : Deserted how s) (places : Nat) (send : Send) :
    s.enqueue places send = { s with asked := s.asked + 1 }.reject s.asked := by
  unfold State.enqueue
  have gone : (s.shutdown || s.stage.ending?.isSome) = true := by
    rw [d.stage]
    exact Bool.or_true s.shutdown
  rw [if_pos gone]

theorem stop (d : Deserted how s) : s.stop = (false, s) := by
  unfold State.stop
  rw [d.stopped]
  exact if_neg Lifecycle.noConfusion

/-- A queue without a worker stays so. Whatever happens, at most a caller is turned
    away, and the chains are left alone. -/
theorem kept (step : Step q s h t) (d : Deserted how s) :
    Deserted how t ∧ (∀ x ∈ h, ∃ n, x.2 = .told (.rejected n)) ∧
      t.outside.acts = s.outside.acts := by
  have quiet : ∀ x ∈ ([] : List (Nat × Happening)), ∃ n, x.2 = .told (.rejected n) :=
    fun x mem => absurd mem List.not_mem_nil
  -- The worker takes no step any more.
  have away {stage : Stage} (here : s.stage = stage) (other : stage.ending? = none) : False := by
    rw [← here, d.stage] at other
    exact absurd other (by simp only [Stage.ending?, reduceCtorEq, not_false_eq_true])
  have flown {n i : Nat} {deed : Option Happening} {o : Surroundings σ} {fate : Fate}
      (flight : Flight q s n i deed o fate) : False :=
    away rfl (Stage.ending?_of_ticket? flight.ticket?)
  cases step with
  | start stage => exact (away stage rfl).elim
  | turnAway held shut =>
    refine ⟨⟨d.stage, d.stopped, d.buffer, d.waiters, d.granted, d.gauge⟩, ?_, rfl⟩
    exact fun x mem => ⟨s.asked, by rw [List.mem_singleton.mp mem]⟩
  | accept send held opened alive => exact (away rfl alive).elim
  | lineUp send held opened alive => exact (away rfl alive).elim
  | leaveLine ticket =>
    have nobody : s.waiters.filter (fun e => e.ticket != ticket) = [] := by
      rw [d.waiters]
      rfl
    refine ⟨⟨d.stage, d.stopped, d.buffer, nobody, ?_, d.gauge⟩, quiet, rfl⟩
    show min s.granted _ = 0
    rw [d.granted]
    exact Nat.zero_min _
  | depart | dropHandle | wait =>
    exact ⟨⟨d.stage, d.stopped, d.buffer, d.waiters, d.granted, d.gauge⟩, quiet, rfl⟩
  | close held running =>
    rw [d.stopped] at running
    exact Lifecycle.noConfusion running
  | lose alive => exact (away rfl alive).elim
  | store granted waiters =>
    rw [d.granted] at granted
    exact absurd granted (Nat.not_lt_zero _)
  | take stage | drain stage | finish stage => exact (away stage rfl).elim
  | goesOn flight | isOver flight | crashes flight => exact (flown flight).elim

end Deserted

/-- What the loss of the worker does at once, in a move from `c` to `d`. -/
structure Collapse (how : Ending) (c d : Chronicle σ) : Prop where
  /-- What was in hand is answered as missing and everybody in line is turned away,
      all at that instant. Before it the work on the submission in flight may have
      come to something. -/
  history : ∃ deed : Option Happening,
    d.history = ((d.state.now, .left how) :: State.toldAll
      (d.state.refusals c.state.inLine ++
        d.state.replies (.failed .missingResult) c.state.inHand) ++
      deed.toList.map fun x => (d.state.now, x)) ++ c.history ∧
    ∀ x ∈ deed, ∃ n, c.state.stage.ticket? = some n ∧ x.about? = some n
  /-- The queue is stopped and empty. -/
  deserted : Deserted how d.state
  /-- Nothing was asked of the chains. -/
  acts : d.state.outside.acts = c.state.outside.acts

-- A worker that goes away tells everybody, and nothing is told besides.
theorem Collapse.of_leave {history past : List (Nat × Happening)} {d : Option Happening}
    (acts : t.outside.acts = s.outside.acts)
    (hand : t.inHand = s.inHand) (line : t.inLine = s.inLine)
    (written : history = ((t.now, .left how) :: State.toldAll
      (t.refusals t.inLine ++ t.replies (.failed .missingResult) t.inHand) ++
      d.toList.map fun x => (t.now, x)) ++ past)
    (about : ∀ x ∈ d, ∃ n, s.stage.ticket? = some n ∧ x.about? = some n) :
    Collapse how ⟨s, past⟩ ⟨t.leave how, history⟩ := by
  have gone := Deserted.leave how t
  rcases t.leave_shape how with ⟨m, shape⟩
  rw [shape] at gone ⊢
  rw [hand, line] at written
  exact ⟨⟨d, written, about⟩, gone, acts⟩

/-- A step in which the worker is lost. -/
theorem Step.loses (step : Step q s h t) (alive : s.stage.ending? = none)
    (lost : t.stage = .ended how) (early : how ≠ .finished) (past : List (Nat × Happening)) :
    Collapse how ⟨s, past⟩ ⟨t, h ++ past⟩ := by
  -- A worker that stays where it was is not lost.
  have stays (same : t.stage.ending? = none) : False := by
    rw [lost] at same
    exact absurd same (by simp only [Stage.ending?, reduceCtorEq, not_false_eq_true])
  have ends {u : State σ} {how' : Ending} (gone : t = u.leave how') : how' = how := by
    rw [gone, (u.leave_cleared how').2] at lost
    exact Stage.ended.inj lost
  cases step with
  | start => exact (stays rfl).elim
  | turnAway | accept | lineUp | leaveLine | depart | dropHandle | store | wait =>
    exact (stays alive).elim
  | close held running =>
    rcases s.close_shape with ⟨m, shape⟩
    rw [shape] at stays
    exact (stays alive).elim
  | lose =>
    rw [← ends rfl]
    refine Collapse.of_leave (d := none) rfl rfl rfl ?_ fun x mem => absurd mem ?_
    · rw [Option.toList_none, List.map_nil, List.append_nil]
    · simp only [Option.mem_def, reduceCtorEq, not_false_eq_true]
  | @take e rest stage opened buffer =>
    exact (stays (Stage.ending?_of_ticket? (s.receive_frame q e rest).2)).elim
  | goesOn flight acts calm => exact (stays (Stage.ending?_of_ticket? flight.ticket?_on)).elim
  | isOver => exact (stays rfl).elim
  | @crashes n i d o text flight calm =>
    rw [← ends rfl]
    refine Collapse.of_leave (t := s.after i o) flight.acts_crash rfl rfl rfl fun x mem => ?_
    exact ⟨n, flight.ticket?, flight.about x mem⟩
  | drain => exact absurd (ends rfl).symm early
  | finish => exact absurd (ends rfl).symm early

/-- What remains so, when the worker was lost in a move from `c` to `d` and the run
    has come to `e`. -/
structure Aftermath (q : Setup σ) (how : Ending) (c d e : Chronicle σ) : Prop where
  /-- Nothing happened but that callers were turned away. -/
  silent : ∃ since, e.history = since ++ d.history ∧
    ∀ x ∈ since, ∃ n, x.2 = .told (.rejected n)
  /-- The queue is stopped and empty. -/
  deserted : Deserted how e.state
  /-- Every place is free. -/
  depth : e.state.depth = 0
  /-- Whoever asks is turned away at once. -/
  refused : ∀ send, e.state.enqueue q.places send =
    { e.state with asked := e.state.asked + 1 }.reject e.state.asked
  /-- A shutdown is not brought about any more. -/
  stop : e.state.stop = (false, e.state)
  /-- Nothing was sent or looked up. -/
  acts : e.state.outside.acts = c.state.outside.acts
  /-- What was in hand has one answer: it is missing since the loss. -/
  missing : ∀ n ∈ c.state.inHand, (e.state.events.filter fun x => x.2.answered? == some n) =
    [(d.state.now, d.state.reply n (.failed .missingResult))]
  /-- All others keep the answers they have. -/
  kept : ∀ n, n ∉ c.state.inHand →
    (e.state.events.filter fun x => x.2.answered? == some n) =
      c.state.events.filter fun x => x.2.answered? == some n

section Answers

variable {n : Nat}

-- Whoever is turned away is not answered.
theorem answers_to_refusals (tickets : List Nat) (s : State σ) :
    (s.refusals tickets).filter (fun x => x.2.answered? == some n) = [] := by
  rw [List.filter_eq_nil_iff]
  intro x mem
  rcases List.mem_map.mp (List.mem_reverse.mp mem) with ⟨m, -, rfl⟩
  exact Bool.noConfusion

-- One of several submissions that are answered alike.
theorem answers_to_replies (r : Response) (tickets : List Nat) (s : State σ) :
    (s.replies r tickets).filter (fun x => x.2.answered? == some n) =
      List.replicate (tickets.count n) (s.now, s.reply n r) := by
  have own : ((fun x : Nat × Event => x.2.answered? == some n) ∘ fun m => (s.now, s.reply m r)) =
      fun m => m == n := by
    funext m
    show ((s.reply m r).answered? == some n) = (m == n)
    rw [State.answered?_reply]
    rfl
  unfold State.replies
  rw [List.filter_reverse, List.filter_map, own, List.filter_beq, List.map_replicate,
    List.reverse_replicate]

-- Callers that are turned away are not answered.
theorem answers_to_silent {since : List (Nat × Happening)}
    (silent : ∀ x ∈ since, ∃ m, x.2 = .told (.rejected m)) :
    (said since).filter (fun x => x.2.answered? == some n) = [] := by
  rw [List.filter_eq_nil_iff]
  rintro ⟨i, e⟩ mem
  rcases silent _ (mem_said.mp mem) with ⟨m, told⟩
  rw [show e = .rejected m from Happening.told.inj told]
  exact Bool.noConfusion

-- What was not answered has no answer among the events.
theorem answers_to_none (unanswered : s.answered.count n = 0) :
    s.events.filter (fun x => x.2.answered? == some n) = [] := by
  rw [List.filter_eq_nil_iff]
  intro x mem answered
  refine List.count_eq_zero.mp unanswered ?_
  exact List.mem_filterMap.mpr ⟨x, mem, beq_iff_eq.mp answered⟩

end Answers

-- What a loss leads to, in a run that is known.
theorem Collapse.aftermath {c d e : Chronicle σ} {since : List (Nat × Happening)}
    (lost : Collapse how c d) (ledger : Ledger c.state) (before : c.state.events = said c.history)
    (after : e.state.events = said e.history) (history : e.history = since ++ d.history)
    (silent : ∀ x ∈ since, ∃ n, x.2 = .told (.rejected n)) (deserted : Deserted how e.state)
    (acts : e.state.outside.acts = d.state.outside.acts) : Aftermath q how c d e := by
  rcases lost.history with ⟨deed, written, about⟩
  -- Of all that was told since, only what was in hand is answered.
  have answers (n : Nat) : (e.state.events.filter fun x => x.2.answered? == some n) =
      List.replicate (c.state.inHand.count n)
        (d.state.now, d.state.reply n (.failed .missingResult)) ++
        c.state.events.filter fun x => x.2.answered? == some n := by
    have learned : said (deed.toList.map fun x => (d.state.now, x)) = [] := by
      cases deed with
      | none => rfl
      | some x =>
        rcases about x rfl with ⟨m, -, about⟩
        cases x with
        | told => exact absurd about (by simp only [Happening.about?, reduceCtorEq,
            not_false_eq_true])
        | _ => rfl
    have left : said d.history = (d.state.refusals c.state.inLine ++
        d.state.replies (.failed .missingResult) c.state.inHand) ++ c.state.events := by
      rw [written, said_append, said_append, learned, List.append_nil, ← before]
      exact congrArg (· ++ c.state.events) (said_toldAll _)
    rw [after, history, said_append, left, List.filter_append, List.filter_append,
      List.filter_append, answers_to_silent silent, answers_to_refusals, answers_to_replies]
    rfl
  refine ⟨⟨since, history, silent⟩, deserted, deserted.depth, deserted.enqueue q.places,
    deserted.stop, acts.trans lost.acts, fun n hand => ?_, fun n other => ?_⟩
  · have once := ledger.accepted_le n
    have balance := ledger.balance n
    have positive := List.count_pos_iff.mpr hand
    have single : c.state.inHand.count n = 1 := by omega
    have unanswered : c.state.answered.count n = 0 := by omega
    rw [answers, single, answers_to_none unanswered]
    rfl
  · rw [answers, List.count_eq_zero.mpr other]
    rfl

/-- In every run the loss of the worker is contained. Whenever a move takes the
    worker away before its work is over, everything in hand is answered as missing
    and everybody in line is turned away in that move; and whatever moves follow, the
    queue stays stopped and empty, whoever asks is turned away, nobody else is told
    anything, and nothing is sent or looked up. -/
theorem loss_is_contained (q : Setup σ) (world : σ) (before after : List Move) (m : Move)
    (how : Ending)
    (alive : ((Chronicle.fresh world).play q before).state.stage.ending? = none)
    (gone : (((Chronicle.fresh world).play q before).move q m).state.stage = .ended how)
    (early : how ≠ .finished) :
    Collapse how ((Chronicle.fresh world).play q before)
        (((Chronicle.fresh world).play q before).move q m) ∧
      Aftermath q how ((Chronicle.fresh world).play q before)
        (((Chronicle.fresh world).play q before).move q m)
        ((((Chronicle.fresh world).play q before).move q m).play q after) := by
  have known : Recorded q ((Chronicle.fresh world).play q before).state
      ((Chronicle.fresh world).play q before).history := Recorded.play q before world
  have further : Recorded q
      ((((Chronicle.fresh world).play q before).move q m).play q after).state
      ((((Chronicle.fresh world).play q before).move q m).play q after).history := by
    have all := Recorded.play q (before ++ m :: after) world
    unfold Chronicle.play at all
    rw [List.foldl_append, List.foldl_cons] at all
    exact all
  generalize (Chronicle.fresh world).play q before = c at alive gone known further ⊢
  have lost : Collapse how c (c.move q m) := by
    rcases c.move_cases q m with same | ⟨h, step, history⟩
    · rw [same] at gone
      rw [gone] at alive
      exact absurd alive (by simp only [Stage.ending?, reduceCtorEq, not_false_eq_true])
    · have lost := step.loses alive gone early c.history
      rw [← history] at lost
      exact lost
  refine ⟨lost, ?_⟩
  -- Every step after the loss leaves the queue deserted and is silent.
  have way : ∃ since, ((c.move q m).play q after).history = since ++ (c.move q m).history ∧
      (∀ x ∈ since, ∃ n, x.2 = .told (.rejected n)) ∧
      Deserted how ((c.move q m).play q after).state ∧
      ((c.move q m).play q after).state.outside.acts = (c.move q m).state.outside.acts := by
    refine Chronicle.step_induction q
      (P := fun e => ∃ since, e.history = since ++ (c.move q m).history ∧
        (∀ x ∈ since, ∃ n, x.2 = .told (.rejected n)) ∧ Deserted how e.state ∧
        e.state.outside.acts = (c.move q m).state.outside.acts) ?_ after (c.move q m) ?_
    · rintro e h t step ⟨since, history, silent, deserted, acts⟩
      rcases deserted.kept step with ⟨still, quiet, same⟩
      refine ⟨h ++ since, ?_, ?_, still, same.trans acts⟩
      · rw [List.append_assoc, ← history]
      · intro x mem
        rcases List.mem_append.mp mem with new | old
        · exact quiet x new
        · exact silent x old
    · exact ⟨[], rfl, fun x mem => absurd mem List.not_mem_nil, lost.deserted, rfl⟩
  rcases way with ⟨since, history, silent, deserted, acts⟩
  exact lost.aftermath known.ledger known.events further.events history silent deserted acts

-- The worker is aborted while it sends, with a caller in line who was just handed the
-- place that it freed.
theorem contained_with_place_handed_over :
    let c := (Chronicle.fresh ()).play Setup.mute
      [.call .start, .call (.enqueue (.direct .never)), .call (.enqueue (.direct .never)), .work]
    c.state.granted = 1 ∧
    Collapse .aborted c (c.move Setup.mute (.call .lose)) ∧
      Aftermath Setup.mute .aborted c (c.move Setup.mute (.call .lose))
        ((c.move Setup.mute (.call .lose)).play Setup.mute
          [.store 0, .call (.enqueue (.direct .never)), .call .stop]) :=
  ⟨rfl, loss_is_contained Setup.mute () _ _ (.call .lose) .aborted rfl rfl Ending.noConfusion⟩

end Queue

end TxRelay
