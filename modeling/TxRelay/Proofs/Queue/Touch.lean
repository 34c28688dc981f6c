import TxRelay.Proofs.Queue.Answers
import TxRelay.Proofs.Queue.Places

/-!
# How a Queue Touches Its Chains

A step that reaches the chains makes one lookup or one attempt. An attempt is seen
in the stage, which waits for its answer, and belongs to a broadcast that was under
way or to an entry that was stored, so it can be put down to a submission
(`Step.touch`). The way back is as narrow: a send operation ends only when what is
under way ends, and a lookup is answered with what the chains answered.

The lemmas of this module read a step backwards. They say what must have been there
before if something is there after it, so that an invariant about what waits in the
queue is shown by asking where each thing came from.

## Main definitions

* `Queue.attempts`: The transactions handed over by acts.
* `Queue.Continues`: No operation begins but the caller's own.
* `Queue.Touch`: How a step touches the chains.
* `Queue.Uncrashed`: No lookup under way will take the worker down.

## Theorems

* `Broadcast.Run.fire_on`: How a broadcast goes on.
* `Queue.Step.touch`: How every step touches the chains.
* `Queue.Step.stored_of_mem`, `returns_of_mem`, `left_cases`: Where things come
  from.
-/

namespace TxRelay

/-- The transaction that was handed over. -/
def Act.attempt? : Act → Option (ChainId × Bytes)
  | .attempt chain raw => some (chain, raw)
  | _ => none

namespace Broadcast.Run

variable {σ : Type} {send : Broadcaster σ} {r v : Run} {s o : Surroundings σ}

/-- A broadcast goes on with a pause, or by making an attempt. -/
theorem fire_on (fire : r.fire send s = (.inr v, o)) :
    (∃ resume left, v = { r with phase := .pausing resume left } ∧ o = s) ∨
      ∃ resume left, (v, o) = call send resume left r s := by
  have paused {instant left : Nat} {d : Decision} (on : r.decide instant left d = .inr v) :
      ∃ resume left, v = { r with phase := .pausing resume left } := by
    rcases d with hash | f | f
    · exact absurd on (by simp [decide])
    · exact absurd on (by simp [decide])
    · cases left with
      | zero => exact absurd on (by simp [decide])
      | succ rest => exact ⟨_, _, (Sum.inr.inj on).symm⟩
  unfold Run.fire at fire
  split at fire
  · split at fire
    · split at fire
      · obtain ⟨on, rfl⟩ := Prod.mk.inj fire
        obtain ⟨resume, left, same⟩ := paused on
        exact Or.inl ⟨resume, left, same, rfl⟩
      · obtain ⟨on, rfl⟩ := Prod.mk.inj fire
        obtain ⟨resume, left, same⟩ := paused on
        exact Or.inl ⟨resume, left, same, rfl⟩
      · exact absurd (Prod.mk.inj fire).1 (by simp)
    · obtain ⟨on, rfl⟩ := Prod.mk.inj fire
      obtain ⟨resume, left, same⟩ := paused on
      exact Or.inl ⟨resume, left, same, rfl⟩
  · obtain ⟨on, rfl⟩ := Prod.mk.inj fire
    obtain ⟨resume, left, same⟩ := paused on
    exact Or.inl ⟨resume, left, same, rfl⟩
  · rename_i resume left phase
    obtain ⟨on, rfl⟩ := Prod.mk.inj fire
    exact Or.inr ⟨resume, left, by rw [← Sum.inr.inj on]⟩

end Broadcast.Run

namespace Queue

variable {σ : Type} {q : Setup σ} {s t : State σ} {h : List (Nat × Happening)}

/-- The transactions handed over by acts, the latest first. -/
def attempts (acts : List (Nat × Act)) : List (ChainId × Bytes) :=
  acts.filterMap fun a => a.2.attempt?

/-- A send operation under way was under way before, or pauses now, unless it is the
    caller's own and begins. -/
def Continues (s t : State σ) : Prop :=
  ∀ n operation, t.stage = .sending n operation →
    s.stage = .sending n operation ∨
    (∃ e ∈ s.buffer, e.ticket = n ∧ ∃ reply, e.send = .direct reply) ∨
    ∃ run resume left, s.stage = .sending n (.relay run) ∧
      operation = .relay { run with phase := .pausing resume left }

theorem Continues.of_stage (same : t.stage = s.stage) : Continues s t :=
  fun _ _ stage => Or.inl (same.symm.trans stage)

-- Nothing is under way.
theorem Continues.of_free (free : ∀ n operation, t.stage ≠ .sending n operation) :
    Continues s t :=
  fun n operation stage => absurd stage (free n operation)

theorem Continues.leave (how : Ending) (u : State σ) : Continues s (u.leave how) :=
  .of_free fun _ _ => by simp [(u.leave_cleared how).2]

/-- How a step touches the chains. -/
inductive Touch (q : Setup σ) (s t : State σ) (acts : List (Nat × Act)) : Prop where
  /-- It does not reach them. -/
  | none (world : t.outside.world = s.outside.world) (acts : attempts acts = [])
      (continues : Continues s t)
  /-- It looks a transaction up. -/
  | lookup {chain : ChainId} {hash : Hash}
      (world : t.outside.world = (q.lookup chain hash s.outside.world).2)
      (acts : attempts acts = []) (continues : Continues s t)
  /-- It hands a transaction over, and waits for the answer. -/
  | attempt {n i deadline left : Nat} {run : Broadcast.Run}
      (whose : (∃ e ∈ s.buffer, e.ticket = n ∧ e.send = .relay run.chain run.raw) ∨
        s.stage = .sending n (.relay run))
      (world : t.outside.world = (q.broadcast run.chain run.raw s.outside.world).2)
      (acts : attempts acts = [(run.chain, run.raw)])
      (stage : t.stage = .sending n (.relay { run with
        phase := .calling ((q.broadcast run.chain run.raw s.outside.world).1.calledAt i)
          deadline left }))

-- A send operation that ends leaves the chains alone.
theorem world_of_returns {n i : Nat} {outcome : Outcome Submitted} {o : Surroundings σ}
    (returns : Returns q s n i outcome o) : o.world = s.outside.world := by
  cases returns with
  | direct stage => rfl
  | relay stage fire =>
    rename_i run
    have ends := run.fire_over (congrArg Prod.fst fire)
    rw [← ends, fire]

namespace Flight

variable {n i : Nat} {d : Option Happening} {o : Surroundings σ}

-- A step that answers leaves the chains alone.
theorem world_over {r : Response} (flight : Flight q s n i d o (.answered r)) :
    o.world = s.outside.world := by
  cases flight with
  | failed returns => exact (world_of_returns returns :)
  | sentLate returns closed => exact (world_of_returns returns :)
  | abandoned stage closed => rfl
  | settled stage opened answer => rfl
  | gaveUp stage opened limit => rfl

-- So does a step that takes the worker down.
theorem world_crash {text : String} (flight : Flight q s n i d o (.crash text)) :
    o.world = s.outside.world := by
  cases flight with
  | sendCrashed returns => exact world_of_returns returns
  | unpaced returns opened unpaced => exact world_of_returns returns
  | lookupCrashed stage opened answer => rfl

-- A step after which the submission is still in flight.
theorem touch_on {stage : Stage} {as : List (Nat × Act)} (flight : Flight q s n i d o (.on stage))
    (acts : o.acts = as ++ s.outside.acts) :
    Touch q s { s.after i o with stage := stage } as := by
  have nothing (same : o.acts = s.outside.acts) : attempts as = [] := by
    rw [List.self_eq_append_left.mp (same.symm.trans acts)]
    rfl
  have single {a : Nat × Act} (more : o.acts = a :: s.outside.acts) : as = [a] :=
    List.append_cancel_right (acts.symm.trans more)
  -- A submission whose confirmation is waited for is not being sent.
  have waits {m began : Nat} {wait : Confirmation.Wait} :
      Continues s { s.after i o with stage := .confirming m began wait } :=
    .of_free fun _ _ => by simp
  cases flight with
  | @retries run next _ before fire =>
    obtain ⟨resume, left, rfl, rfl⟩ | ⟨resume, left, made⟩ := Broadcast.Run.fire_on fire
    · refine .none rfl (nothing rfl) fun m operation stage => Or.inr (Or.inr ?_)
      obtain ⟨rfl, rfl⟩ := Stage.sending.inj stage
      exact ⟨run, resume, left, before, rfl⟩
    · obtain ⟨rfl, rfl⟩ := Prod.mk.inj made
      exact .attempt (Or.inr before) rfl (by rw [single rfl]; rfl) rfl
  | sent returns opened paced =>
    exact .none (world_of_returns returns) (nothing (acts_of_returns returns)) waits
  | asks before opened tick fire =>
    obtain rfl : o = _ := congrArg Prod.snd (fire.symm.trans (Confirmation.Wait.fire_tick tick))
    exact .lookup rfl (by rw [single rfl]; rfl) waits
  | pending before opened answer fire =>
    rename_i began wait next outcome
    refine .none ?_ (nothing (acts_of_answer answer fire)) waits
    obtain rfl : _ = o := congrArg Prod.snd fire
    rcases outcome with (_ | _) | f | text
    · rw [Confirmation.Wait.fire_settled answer]
      rfl
    · rw [Confirmation.Wait.fire_pending answer]
      rfl
    · rw [Confirmation.Wait.fire_failure answer]
      rfl
    · rw [Confirmation.Wait.fire_crash answer]
      rfl

end Flight

-- An entry that is taken.
theorem touch_receive {e : Entry} {rest : List Entry} (buffer : s.buffer = e :: rest) :
    Touch q s (s.receive q e rest) (e.opening.map fun a => (s.now, a)) := by
  have stored : e ∈ s.buffer := by simp [buffer]
  unfold State.receive Entry.opening
  cases send : e.send with
  | direct reply =>
    refine .none ((Surroundings.world_note _ _ _).trans (Surroundings.world_measure _ _)) rfl ?_
    intro n operation stage
    exact Or.inr (Or.inl ⟨e, stored, (Stage.sending.inj stage).1, reply, send⟩)
  | relay chain raw =>
    dsimp only
    generalize noted : Surroundings.note _ _ _ = o
    have world : o.world = s.outside.world := by
      rw [← noted, Surroundings.world_note, Surroundings.world_measure]
    refine @Touch.attempt _ _ _ _ _ e.ticket s.now (s.now + q.policy.patience)
      (q.policy.attempts - 1) ⟨chain, raw, q.policy, .pausing s.now 0⟩
      (Or.inl ⟨e, stored, rfl, send⟩) ?_ rfl ?_
    · rw [← world]
      rfl
    · rw [← world]
      rfl

namespace Step

/-- How a step touches the chains. -/
theorem touch (step : Step q s h t) : Touch q s t (done h) := by
  -- What was told is nothing that was done.
  have told (es : List (Nat × Event)) : attempts (done (State.toldAll es)) = [] := by
    rw [done_toldAll]
    rfl
  cases step with
  | start => exact .none rfl rfl (.of_free fun _ _ => by simp)
  | lineUp | leaveLine | depart | dropHandle | wait => exact .none rfl rfl (.of_stage rfl)
  | turnAway | accept | store =>
    exact .none (Surroundings.world_measure _ _) rfl (.of_stage rfl)
  | close held running =>
    obtain ⟨m, shape⟩ := s.close_shape
    rw [shape, done_append, done_toldAll]
    exact .none rfl rfl (.of_stage rfl)
  | lose alive =>
    refine .none ?_ (told _) (.leave _ s)
    obtain ⟨m, shape⟩ := s.leave_shape s.loss
    rw [shape]
    rfl
  | take stage opened buffer =>
    rw [done_didAll]
    exact touch_receive buffer
  | goesOn flight acts calm =>
    rw [done_append, done_didAll, flight.done_deed, List.append_nil]
    exact flight.touch_on acts
  | isOver flight calm =>
    refine .none flight.world_over ?_ (.of_free fun _ _ => by simp [State.answer, State.tell])
    show attempts (done (List.map _ _)) = []
    rw [flight.done_deed]
    rfl
  | @crashes n i d o text flight calm =>
    refine .none ?_ ?_ (.leave _ _)
    · obtain ⟨m, shape⟩ := (s.after i o).leave_shape (.crashed text)
      rw [shape]
      exact flight.world_crash
    · rw [done_append, flight.done_deed, List.append_nil]
      exact told _
  | drain stage closed =>
    refine .none ?_ (told _) (.leave _ _)
    obtain ⟨m, shape⟩ := s.drain_shape (by rw [stage]; rfl)
    rw [shape]
    rfl
  | finish stage opened buffer held waiters =>
    refine .none ?_ rfl (.leave _ s)
    obtain ⟨m, shape⟩ := s.leave_shape .finished
    rw [shape]
    rfl

/-- What is stored or waits for a place did so before, or was asked for just now. -/
theorem stored_of_mem (step : Step q s h t) {e : Entry} (mem : e ∈ t.buffer ++ t.waiters) :
    e ∈ s.buffer ++ s.waiters ∨ e.ticket = s.asked ∧ t.asked = s.asked + 1 := by
  -- Nothing is left of what a worker had that goes away.
  have left {u : State σ} {how : Ending} (mem : e ∈ (u.leave how).buffer ++ (u.leave how).waiters) :
      e ∈ s.buffer ++ s.waiters ∨ e.ticket = s.asked ∧ (u.leave how).asked = s.asked + 1 := by
    obtain ⟨m, shape⟩ := u.leave_shape how
    rw [shape] at mem
    exact absurd mem List.not_mem_nil
  cases step with
  | start | turnAway | depart | dropHandle | wait | goesOn | isOver => exact Or.inl mem
  | accept send held opened alive room =>
    have mem : e ∈ (s.buffer ++ [⟨s.asked, send⟩]) ++ s.waiters := mem
    simp only [List.mem_append, List.mem_singleton] at mem
    obtain (mem | rfl) | mem := mem
    · exact Or.inl (List.mem_append_left _ mem)
    · exact Or.inr ⟨rfl, rfl⟩
    · exact Or.inl (List.mem_append_right _ mem)
  | lineUp send held opened alive full =>
    have mem : e ∈ s.buffer ++ (s.waiters ++ [⟨s.asked, send⟩]) := mem
    simp only [List.mem_append, List.mem_singleton] at mem
    obtain mem | mem | rfl := mem
    · exact Or.inl (List.mem_append_left _ mem)
    · exact Or.inl (List.mem_append_right _ mem)
    · exact Or.inr ⟨rfl, rfl⟩
  | leaveLine ticket =>
    refine Or.inl ?_
    obtain mem | mem := List.mem_append.mp mem
    · exact List.mem_append_left _ mem
    · exact List.mem_append_right _ (List.mem_filter.mp mem).1
  | close held running =>
    obtain ⟨m, shape⟩ := s.close_shape
    rw [shape] at mem
    exact Or.inl (List.mem_append_left _ (by simpa [State.shut, State.measure] using mem))
  | @store front x rest granted waiters =>
    refine Or.inl ?_
    have mem : e ∈ (s.buffer ++ [x]) ++ (front ++ rest) := mem
    rw [waiters]
    simp only [List.mem_append, List.mem_cons, List.not_mem_nil, or_false] at mem ⊢
    obtain (mem | rfl) | mem | mem := mem
    · exact Or.inl mem
    · exact Or.inr (Or.inr (Or.inl rfl))
    · exact Or.inr (Or.inl mem)
    · exact Or.inr (Or.inr (Or.inr mem))
  | @take x rest stage opened buffer =>
    refine Or.inl ?_
    rw [(s.receive_frame q x rest).1] at mem
    rw [buffer]
    exact List.mem_cons_of_mem x mem
  | lose | crashes | drain | finish => exact left mem

/-- A send operation that ended was the one under way. -/
theorem returns_of_mem (step : Step q s h t) {b n : Nat} {outcome : Outcome Submitted}
    (mem : (b, Happening.returned n outcome) ∈ h) : ∃ i o, Returns q s n i outcome o := by
  have told {es : List (Nat × Event)} :
      (b, Happening.returned n outcome) ∉ State.toldAll es := by
    simp [State.toldAll]
  have did {as : List (Nat × Act)} : (b, Happening.returned n outcome) ∉ State.didAll as := by
    simp [State.didAll]
  -- What a step in flight brings to light.
  have deed {m i j : Nat} {d : Option Happening} {o : Surroundings σ} {fate : Fate}
      (flight : Flight q s m i d o fate)
      (mem : (b, Happening.returned n outcome) ∈ d.toList.map fun x => (j, x)) :
      ∃ i o, Returns q s n i outcome o := by
    obtain ⟨x, found, same⟩ := List.mem_map.mp mem
    obtain rfl := (Prod.mk.inj same).2
    cases flight with
    | retries | abandoned | gaveUp => exact absurd found List.not_mem_nil
    | asks | pending | settled | lookupCrashed =>
      exact absurd (List.mem_singleton.mp found) (by simp)
    | failed returns | sendCrashed returns | sentLate returns | sent returns | unpaced returns =>
      obtain ⟨rfl, rfl⟩ := Happening.returned.inj (List.mem_singleton.mp found)
      exact ⟨_, _, returns⟩
  cases step with
  | lineUp | leaveLine | depart | dropHandle | wait => exact absurd mem List.not_mem_nil
  | start | turnAway | accept | store | finish =>
    exact absurd (List.mem_singleton.mp mem) (by simp)
  | take => exact absurd mem did
  | close =>
    obtain mem | mem := List.mem_append.mp mem
    · exact absurd mem told
    · exact absurd (List.mem_singleton.mp mem) (by simp)
  | lose | drain =>
    obtain mem | mem := List.mem_cons.mp mem
    · exact absurd mem (by simp)
    · exact absurd mem told
  | goesOn flight acts calm =>
    obtain mem | mem := List.mem_append.mp mem
    · exact absurd mem did
    · exact deed flight mem
  | isOver flight calm =>
    obtain mem | mem := List.mem_cons.mp mem
    · exact absurd mem (by simp)
    · exact deed flight mem
  | crashes flight calm =>
    obtain mem | mem := List.mem_append.mp mem
    · obtain mem | mem := List.mem_cons.mp mem
      · exact absurd mem (by simp)
      · exact absurd mem told
    · exact deed flight mem

/-- A worker that goes away was there before. It is lost, is done, or is taken down by
    the submission in flight. -/
theorem left_cases (step : Step q s h t) {i : Nat} {how : Ending}
    (mem : (i, Happening.left how) ∈ h) :
    s.stage.ending? = none ∧ (∃ u, t = State.leave how u) ∧
      (how = s.loss ∨ how = .finished ∨ ∃ n k d o text, how = .crashed text ∧
        Flight q s n k d o (.crash text) ∧ ∀ x ∈ d, (i, x) ∈ h) := by
  have told {es : List (Nat × Event)} : (i, Happening.left how) ∉ State.toldAll es := by
    simp [State.toldAll]
  have did {as : List (Nat × Act)} : (i, Happening.left how) ∉ State.didAll as := by
    simp [State.didAll]
  have deed {m k j : Nat} {d : Option Happening} {o : Surroundings σ} {fate : Fate}
      (flight : Flight q s m k d o fate) :
      (i, Happening.left how) ∉ d.toList.map fun x => (j, x) := by
    intro mem
    obtain ⟨x, found, same⟩ := List.mem_map.mp mem
    obtain rfl := (Prod.mk.inj same).2
    exact absurd (flight.about _ (Option.mem_toList.mp found)) (by simp [Happening.about?])
  cases step with
  | lineUp | leaveLine | depart | dropHandle | wait => exact absurd mem List.not_mem_nil
  | start | turnAway | accept | store => exact absurd (List.mem_singleton.mp mem) (by simp)
  | take => exact absurd mem did
  | close =>
    obtain mem | mem := List.mem_append.mp mem
    · exact absurd mem told
    · exact absurd (List.mem_singleton.mp mem) (by simp)
  | goesOn flight acts calm =>
    obtain mem | mem := List.mem_append.mp mem
    · exact absurd mem did
    · exact absurd mem (deed flight)
  | isOver flight calm =>
    obtain mem | mem := List.mem_cons.mp mem
    · exact absurd mem (by simp)
    · exact absurd mem (deed flight)
  | lose alive =>
    obtain mem | mem := List.mem_cons.mp mem
    · obtain rfl := Happening.left.inj (Prod.mk.inj mem).2
      exact ⟨alive, ⟨s, rfl⟩, Or.inl rfl⟩
    · exact absurd mem told
  | drain stage closed =>
    obtain mem | mem := List.mem_cons.mp mem
    · obtain rfl := Happening.left.inj (Prod.mk.inj mem).2
      exact ⟨by rw [stage]; rfl, ⟨_, rfl⟩, Or.inr (Or.inl rfl)⟩
    · exact absurd mem told
  | finish stage opened buffer held waiters =>
    obtain rfl := Happening.left.inj (Prod.mk.inj (List.mem_singleton.mp mem)).2
    exact ⟨by rw [stage]; rfl, ⟨s, rfl⟩, Or.inr (Or.inl rfl)⟩
  | crashes flight calm =>
    obtain mem | mem := List.mem_append.mp mem
    · obtain mem | mem := List.mem_cons.mp mem
      · obtain ⟨rfl, left⟩ := Prod.mk.inj mem
        obtain rfl := Happening.left.inj left
        refine ⟨Stage.ending?_of_ticket? flight.ticket?, ⟨_, rfl⟩, Or.inr (Or.inr
          ⟨_, _, _, _, _, rfl, flight, fun x found => List.mem_append_right _ ?_⟩)⟩
        exact List.mem_map.mpr ⟨x, Option.mem_toList.mpr found, rfl⟩
      · exact absurd mem told
    · exact absurd mem (deed flight)

-- A worker that went away was there, and is not there any more.
theorem ending_of_left (step : Step q s h t) {i : Nat} {how : Ending}
    (mem : (i, Happening.left how) ∈ h) :
    s.stage.ending? = none ∧ t.stage.ending? = some how := by
  obtain ⟨alive, ⟨u, rfl⟩, -⟩ := step.left_cases mem
  refine ⟨alive, ?_⟩
  rw [(u.leave_cleared how).2]
  rfl

end Step

/-- No lookup under way will take the worker down. -/
def Uncrashed (s : State σ) : Prop :=
  ∀ n began wait i text, s.stage = .confirming n began wait →
    wait.phase ≠ .asking (.arriving i (.crash text))

/-- Where lookups take nobody down, none under way does. -/
theorem Uncrashed.kept (step : Step q s h t)
    (calm : ∀ chain hash world delay text,
      (q.lookup chain hash world).1 ≠ .after delay (.crash text))
    (u : Uncrashed s) : Uncrashed t := by
  intro n began wait i text stage phase
  obtain ⟨same, -⟩ | free | ⟨e, rest, -, -, rfl⟩ | ⟨m, k, d, o, next, as, flight, -, rfl, -⟩ :=
    step.stage_cases
  · exact u n began wait i text (same.symm.trans stage) phase
  · rw [stage] at free
    exact absurd free (by simp [Stage.ticket?])
  · unfold State.receive at stage
    cases send : e.send <;> simp [send] at stage
  · cases flight with
    | retries => exact absurd stage (by simp)
    | sent returns opened paced =>
      obtain ⟨-, -, rfl⟩ := Stage.confirming.inj stage
      exact absurd phase (by simp [Confirmation.Wait.begin])
    | asks before opened tick fire =>
      rename_i wait' next'
      obtain ⟨-, -, rfl⟩ := Stage.confirming.inj stage
      have made := congrArg Prod.fst (fire.symm.trans (Confirmation.Wait.fire_tick tick))
      rw [Sum.inr.inj made] at phase
      simp only [Confirmation.Phase.asking.injEq, Surroundings.call] at phase
      cases reply : (q.lookup wait'.tx.chain wait'.tx.hash s.outside.world).1 with
      | never => simp [reply, Reply.calledAt] at phase
      | after delay outcome =>
        simp only [reply, Reply.calledAt, Answer.arriving.injEq] at phase
        rw [phase.2] at reply
        exact calm _ _ _ _ _ reply
    | pending before opened answer fire =>
      obtain ⟨-, -, rfl⟩ := Stage.confirming.inj stage
      rw [Confirmation.Wait.resting_of_answer answer (congrArg Prod.fst fire)] at phase
      exact absurd phase (by simp)

end Queue

end TxRelay
