import TxRelay.Proofs.Queue.Answers

/-!
# A Shutdown Is a Clean Cut

What happens from the moment at which a shutdown is brought about. Nothing begins
any more: no submission is accepted, no send operation and no lookup begins. The
submission in flight has the last word before the drain, at an instant that is
known: at once if it was waited for, at the end of its send operation if that was
under way, and if nothing was in flight there is no such submission, and the drain
is at once or when the worker is started. At that very instant everything that was
stored is answered as closed, in order, and the worker goes away.

`Phase` says where a queue stands on this way, with everything that was answered
so far. Every step keeps it (`Phase.kept`), whatever callers do in the meantime,
and the way leads forward: as long as the worker is not gone after the last word,
its next step is due now, so time stands still until it is.

## Main definitions

* `Queue.Happening.begins`: Something new begins.
* `Queue.answers`: The answers in a history.
* `Queue.LastWord`: What is answered before the drain, and when.
* `Queue.Phase`: Where a queue stands after a shutdown.
* `Queue.Ends`: The worker ends at an instant.

## Theorems

* `Queue.Phase.kept`: Every step keeps the way.
* `Queue.shutdown_is_clean_cut`: What a shutdown does, in every run.
-/

namespace TxRelay

namespace Queue

variable {σ : Type} {q : Setup σ} {s t u : State σ} {h since : List (Nat × Happening)}

/-- Something new begins: a submission is accepted, or a send operation or a
    lookup begins. -/
def Happening.begins : Happening → Bool
  | .told (.accepted _) => true
  | .did (.send _) => true
  | .did (.lookup _ _) => true
  | .asked _ _ => true
  | _ => false

/-- The answers in a history: when, to which submission, and what. -/
def answers (h : List (Nat × Happening)) : List (Nat × Nat × Response) :=
  (said h).filterMap fun x => x.2.answer?.map fun p => (x.1, p)

/-- The last word before the drain: the instant at which nothing is in flight any
    more, and the answer that the submission in flight got then, if there was
    one. -/
inductive LastWord (s : State σ) (since : List (Nat × Happening)) :
    Nat → Option (Nat × Response) → Prop where
  /-- The worker was started after the shutdown. -/
  | unstarted {x : Nat} (before : s.stage = .unstarted) (started : (x, Happening.started) ∈ since) :
      LastWord s since x none
  /-- Nothing was in flight. -/
  | idle (before : s.stage = .idle) : LastWord s since s.now none
  /-- The send operation under way failed. -/
  | failed {n x : Nat} {operation : Sending} {f : Failure}
      (before : s.stage = .sending n operation)
      (returned : (x, Happening.returned n (.failure f)) ∈ since) :
      LastWord s since x (some (n, .failed f))
  /-- The send operation under way gave a transaction. -/
  | sent {n x : Nat} {operation : Sending} {tx : Submitted}
      (before : s.stage = .sending n operation)
      (returned : (x, Happening.returned n (.value tx)) ∈ since) :
      LastWord s since x (some (n, .submitted tx))
  /-- A transaction was waited for. -/
  | confirming {n began : Nat} {wait : Confirmation.Wait}
      (before : s.stage = .confirming n began wait) :
      LastWord s since s.now (some (n, .submitted wait.tx))

/-- All that is answered after a shutdown, the latest first: what was stored, all
    at one instant and in order, after the last word. -/
def closing (x : Nat) (own : Option (Nat × Response)) (buffer : List Entry) :
    List (Nat × Nat × Response) :=
  (buffer.map fun e => (x, e.ticket, .failed .queueClosed)).reverse ++
    own.toList.map fun p => (x, p)

/-- Where a queue stands that was shut down in state `s`. -/
inductive Phase (s t : State σ) (since : List (Nat × Happening)) : Prop where
  /-- The worker was not started. -/
  | unstarted (before : s.stage = .unstarted) (stage : t.stage = .unstarted)
      (buffer : t.buffer = s.buffer) (told : answers since = [])
  /-- The send operation that was under way still is. -/
  | sending {n : Nat} {operation rest : Sending} (before : s.stage = .sending n operation)
      (stage : t.stage = .sending n rest) (buffer : t.buffer = s.buffer)
      (told : answers since = [])
  /-- The wait that was under way is about to end. -/
  | confirming {n began : Nat} {wait : Confirmation.Wait}
      (before : s.stage = .confirming n began wait) (stage : t.stage = .confirming n began wait)
      (now : t.now = s.now) (buffer : t.buffer = s.buffer) (told : answers since = [])
  /-- The last word was said, and the drain is about to begin. -/
  | idle {x : Nat} {own : Option (Nat × Response)} (word : LastWord s since x own)
      (stage : t.stage = .idle) (now : t.now = x) (buffer : t.buffer = s.buffer)
      (told : answers since = own.toList.map fun p => (x, p))
  /-- The worker is gone. -/
  | gone {x : Nat} {own : Option (Nat × Response)} (word : LastWord s since x own)
      (stage : t.stage = .ended .finished) (left : (x, Happening.left .finished) ∈ since)
      (told : answers since = closing x own s.buffer)
  /-- The worker was lost. -/
  | lost {i : Nat} {how : Ending} (lost : how ≠ .finished) (stage : t.stage = .ended how)
      (left : (i, Happening.left how) ∈ since)

section Answers

variable (g : List (Nat × Happening))

theorem answers_append : answers (g ++ h) = answers g ++ answers h := by
  unfold answers
  rw [said_append, List.filterMap_append]

theorem answers_refusals (tickets : List Nat) (s : State σ) :
    (s.refusals tickets).filterMap (fun x => x.2.answer?.map fun p => (x.1, p)) = [] := by
  rw [List.filterMap_eq_nil_iff]
  intro x mem
  rcases List.mem_map.mp (List.mem_reverse.mp mem) with ⟨n, -, rfl⟩
  rfl

theorem answers_replies (r : Response) (tickets : List Nat) (s : State σ) :
    (s.replies r tickets).filterMap (fun x => x.2.answer?.map fun p => (x.1, p)) =
      (tickets.map fun n => (s.now, n, r)).reverse := by
  unfold State.replies
  rw [List.filterMap_reverse, List.filterMap_map]
  refine congrArg List.reverse ?_
  rw [← List.filterMap_eq_map]
  refine congrArg (fun f => tickets.filterMap f) (funext fun n => ?_)
  show Option.map _ (s.reply n r).answer? = _
  rw [State.answer?_reply]
  rfl

end Answers

-- What was said before the last word stays said.
theorem LastWord.mono {x : Nat} {own : Option (Nat × Response)} (word : LastWord s since x own)
    (h : List (Nat × Happening)) : LastWord s (h ++ since) x own := by
  cases word with
  | unstarted before started => exact .unstarted before (List.mem_append_right h started)
  | idle before => exact .idle before
  | failed before returned => exact .failed before (List.mem_append_right h returned)
  | sent before returned => exact .sent before (List.mem_append_right h returned)
  | confirming before => exact .confirming before

namespace Phase

-- A step that answers nobody and leaves the worker where it is.
theorem of_quiet (phase : Phase s t since) (quiet : answers h = []) (stage : u.stage = t.stage)
    (now : u.now = t.now) (buffer : u.buffer = t.buffer) : Phase s u (h ++ since) := by
  have told : answers (h ++ since) = answers since := by
    rw [answers_append, quiet]
    rfl
  cases phase with
  | unstarted before at_ same silent =>
    exact .unstarted before (stage.trans at_) (buffer.trans same) (told.trans silent)
  | sending before at_ same silent =>
    exact .sending before (stage.trans at_) (buffer.trans same) (told.trans silent)
  | confirming before at_ still same silent =>
    exact .confirming before (stage.trans at_) (now.trans still) (buffer.trans same)
      (told.trans silent)
  | idle word at_ still same spoken =>
    exact .idle (word.mono h) (stage.trans at_) (now.trans still) (buffer.trans same)
      (told.trans spoken)
  | gone word at_ left spoken =>
    exact .gone (word.mono h) (stage.trans at_) (List.mem_append_right h left)
      (told.trans spoken)
  | lost how at_ left => exact .lost how (stage.trans at_) (List.mem_append_right h left)

-- What the phase is can be read off the stage of the worker.

theorem unstarted_inv (phase : Phase s t since) (stage : t.stage = .unstarted) :
    s.stage = .unstarted ∧ t.buffer = s.buffer ∧ answers since = [] := by
  cases phase with
  | unstarted before at_ same silent => exact ⟨before, same, silent⟩
  | sending _ at_ | confirming _ at_ | idle _ at_ | gone _ at_ | lost _ at_ =>
    exact absurd (stage.symm.trans at_) (by simp only [reduceCtorEq, not_false_eq_true])

theorem sending_inv (phase : Phase s t since) {n : Nat} {rest : Sending}
    (stage : t.stage = .sending n rest) :
    ∃ operation, s.stage = .sending n operation ∧ t.buffer = s.buffer ∧ answers since = [] := by
  cases phase with
  | sending before at_ same silent =>
    rcases Stage.sending.inj (stage.symm.trans at_) with ⟨rfl, rfl⟩
    exact ⟨_, before, same, silent⟩
  | unstarted _ at_ | confirming _ at_ | idle _ at_ | gone _ at_ | lost _ at_ =>
    exact absurd (stage.symm.trans at_) (by simp only [reduceCtorEq, not_false_eq_true])

theorem confirming_inv (phase : Phase s t since) {n began : Nat} {wait : Confirmation.Wait}
    (stage : t.stage = .confirming n began wait) :
    s.stage = .confirming n began wait ∧ t.now = s.now ∧ t.buffer = s.buffer ∧
      answers since = [] := by
  cases phase with
  | confirming before at_ still same silent =>
    exact ⟨before.trans (at_.symm.trans stage), still, same, silent⟩
  | unstarted _ at_ | sending _ at_ | idle _ at_ | gone _ at_ | lost _ at_ =>
    exact absurd (stage.symm.trans at_) (by simp only [reduceCtorEq, not_false_eq_true])

theorem idle_inv (phase : Phase s t since) (stage : t.stage = .idle) :
    ∃ own, LastWord s since t.now own ∧ t.buffer = s.buffer ∧
      answers since = own.toList.map fun p => (t.now, p) := by
  cases phase with
  | idle word at_ now same spoken =>
    rw [← now] at word spoken
    exact ⟨_, word, same, spoken⟩
  | unstarted _ at_ | sending _ at_ | confirming _ at_ | gone _ at_ | lost _ at_ =>
    exact absurd (stage.symm.trans at_) (by simp only [reduceCtorEq, not_false_eq_true])

-- The submission in flight goes on. After a shutdown only a send operation that
-- was under way does.
theorem goesOn {n i : Nat} {d : Option Happening} {o : Surroundings σ} {stage : Stage}
    {as : List (Nat × Act)} (phase : Phase s t since) (closed : t.shutdown = true)
    (flight : Flight q t n i d o (.on stage)) :
    Phase s { t.after i o with stage := stage }
      ((State.didAll as ++ d.toList.map fun x => (max t.now i, x)) ++ since) := by
  cases flight with
  | retries under fire =>
    rcases phase.sending_inv under with ⟨operation, before, same, silent⟩
    refine .sending before rfl same ?_
    rw [answers_append, silent, List.append_nil]
    show answers (State.didAll as ++ []) = []
    unfold answers
    rw [List.append_nil, said_didAll]
    rfl
  | sent _ opened | asks _ opened | pending _ opened =>
    exact absurd (opened.symm.trans closed) Bool.noConfusion

-- The submission in flight is answered, and has the last word.
theorem isOver {n i : Nat} {d : Option Happening} {o : Surroundings σ} {r : Response}
    (phase : Phase s t since) (closed : t.shutdown = true)
    (flight : Flight q t n i d o (.answered r)) :
    Phase s ({ t.after i o with stage := .idle }.answer n r)
      (((max t.now i, .told (t.reply n r)) :: d.toList.map fun x => (max t.now i, x)) ++
        since) := by
  have told (silent : answers since = []) :
      answers (((max t.now i, .told (t.reply n r)) :: d.toList.map fun x => (max t.now i, x)) ++
        since) = [(max t.now i, n, r)] := by
    rw [answers_append, silent, List.append_nil]
    unfold answers
    have first : said ((max t.now i, .told (t.reply n r)) ::
        d.toList.map fun x => (max t.now i, x)) = [(max t.now i, t.reply n r)] := by
      refine congrArg (_ :: ·) ?_
      exact flight.said_deed _
    rw [first, List.filterMap_cons]
    simp only [State.answer?_reply, Option.map_some, List.filterMap_nil]
  -- The end of the send operation was written down just before its answer.
  have wrote {x : Happening} : (max t.now i, x) ∈
      (((max t.now i, .told (t.reply n r)) :: (some x).toList.map fun x => (max t.now i, x)) ++
        since) := List.mem_cons_of_mem _ List.mem_cons_self
  cases flight with
  | failed returns =>
    rcases returns.sending with ⟨rest, under⟩
    rcases phase.sending_inv under with ⟨operation, before, same, silent⟩
    exact .idle (.failed before wrote) rfl rfl same (told silent)
  | sentLate returns _ =>
    rcases returns.sending with ⟨rest, under⟩
    rcases phase.sending_inv under with ⟨operation, before, same, silent⟩
    exact .idle (.sent before wrote) rfl rfl same (told silent)
  | abandoned under _ =>
    rcases phase.confirming_inv under with ⟨before, now, same, silent⟩
    have still : max t.now t.now = s.now := (Nat.max_self t.now).trans now
    refine .idle (.confirming before) rfl still same ?_
    rw [told silent, still]
    rfl
  | settled _ opened | gaveUp _ opened => exact absurd (opened.symm.trans closed) Bool.noConfusion

-- The drain, after the last word.
theorem drain (phase : Phase s t since) (idle : t.stage = .idle) :
    Phase s t.drain
      (((t.now, .left .finished) :: State.toldAll
        (t.refusals t.inLine ++
          t.replies (.failed .queueClosed) (t.buffer.map Entry.ticket))) ++ since) := by
  rcases phase.idle_inv idle with ⟨own, word, same, spoken⟩
  rcases t.drain_shape (by rw [idle]; rfl) with ⟨m, shape⟩
  refine .gone (word.mono _) (by rw [shape]; rfl) List.mem_cons_self ?_
  rw [answers_append, spoken]
  unfold closing
  refine congrArg (· ++ _) ?_
  show (said (State.toldAll _)).filterMap _ = _
  rw [said_toldAll, List.filterMap_append, answers_refusals, answers_replies, List.nil_append,
    List.map_map, same]
  rfl

/-- Every step keeps the way. -/
theorem kept (phase : Phase s t since) (step : Step q t h u) (o : Orderly t)
    (closed : t.shutdown = true) : Phase s u (h ++ since) := by
  cases step with
  | start stage =>
    rcases phase.unstarted_inv stage with ⟨before, same, silent⟩
    exact .idle (.unstarted before List.mem_cons_self) rfl rfl same silent
  | turnAway | leaveLine | depart | dropHandle => exact phase.of_quiet rfl rfl rfl rfl
  | accept send held opened | lineUp send held opened =>
    exact absurd (opened.symm.trans closed) Bool.noConfusion
  | close held running =>
    cases ending : t.stage.ending? with
    | none =>
      rw [o.running ending, if_pos closed] at running
      exact Lifecycle.noConfusion running
    | some how =>
      rw [o.stopped (by rw [ending]; exact Option.some_ne_none how)] at running
      exact Lifecycle.noConfusion running
  | lose alive =>
    refine .lost ?_ (t.leave_cleared t.loss).2 List.mem_cons_self
    unfold State.loss
    cases t.stage <;> simp only [ne_eq, reduceCtorEq, not_false_eq_true]
  | store some waiters =>
    rw [o.granted_of_closed closed] at some
    exact absurd some (Nat.not_lt_zero _)
  | take stage opened => exact absurd (opened.symm.trans closed) Bool.noConfusion
  | goesOn flight acts calm => exact phase.goesOn closed flight
  | isOver flight calm => exact phase.isOver closed flight
  | crashes flight calm =>
    refine .lost ?_ (State.leave_cleared _ _).2 List.mem_cons_self
    simp only [ne_eq, reduceCtorEq, not_false_eq_true]
  | drain stage _ => exact phase.drain stage
  | finish stage opened => exact absurd (opened.symm.trans closed) Bool.noConfusion
  | wait limit later none rest =>
    -- Time passes only before the worker is started and while it sends.
    cases phase with
    | unstarted before stage same silent => exact .unstarted before stage same silent
    | sending before stage same silent => exact .sending before stage same silent
    | gone word stage left told => exact .gone word stage left told
    | lost how stage left => exact .lost how stage left
    | confirming before stage =>
      simp only [State.work?, stage, if_pos closed] at rest
      exact absurd rest (by simp only [reduceCtorEq, not_false_eq_true])
    | idle word stage =>
      simp only [State.work?, stage, if_pos closed] at rest
      exact absurd rest (by simp only [reduceCtorEq, not_false_eq_true])

end Phase

section Begins

variable {x : Nat × Happening}

theorem begins_of_leaving {line hand : List Nat} {r : Response}
    (mem : x ∈ State.toldAll (u.refusals line ++ u.replies r hand)) : x.2.begins = false := by
  rcases List.mem_map.mp mem with ⟨y, told, rfl⟩
  rcases List.mem_append.mp told with refusal | reply
  · rcases List.mem_map.mp (List.mem_reverse.mp refusal) with ⟨n, -, rfl⟩
    rfl
  · rcases List.mem_map.mp (List.mem_reverse.mp reply) with ⟨n, -, rfl⟩
    show Happening.begins (.told (u.reply n r)) = false
    unfold State.reply
    split <;> rfl

theorem begins_of_flight {n i : Nat} {d : Option Happening} {o : Surroundings σ} {fate : Fate}
    (closed : t.shutdown = true) (flight : Flight q t n i d o fate) (j : Nat)
    (mem : x ∈ d.toList.map fun x => (j, x)) : x.2.begins = false := by
  rcases List.mem_map.mp mem with ⟨y, deed, rfl⟩
  cases flight with
  | retries | abandoned | gaveUp => exact absurd deed List.not_mem_nil
  | failed | sendCrashed | sentLate =>
    rw [List.mem_singleton.mp deed]
    rfl
  | sent _ opened | unpaced _ opened | asks _ opened | pending _ opened | settled _ opened
  | lookupCrashed _ opened =>
    exact absurd (opened.symm.trans closed) Bool.noConfusion

/-- After a shutdown nothing begins. -/
theorem Step.begins (step : Step q t h u) (o : Orderly t) (closed : t.shutdown = true)
    (mem : x ∈ h) : x.2.begins = false := by
  cases step with
  | start | turnAway =>
    rw [List.mem_singleton.mp mem]
    rfl
  | finish =>
    rw [List.mem_singleton.mp mem]
    rfl
  | leaveLine | depart | dropHandle | wait => exact absurd mem List.not_mem_nil
  | accept send held opened | lineUp send held opened =>
    exact absurd (opened.symm.trans closed) Bool.noConfusion
  | close held running =>
    rcases List.mem_append.mp mem with told | mem
    · rcases List.mem_map.mp told with ⟨y, refusal, rfl⟩
      rcases List.mem_map.mp (List.mem_reverse.mp refusal) with ⟨n, -, rfl⟩
      rfl
    · rw [List.mem_singleton.mp mem]
      rfl
  | store some waiters =>
    rw [o.granted_of_closed closed] at some
    exact absurd some (Nat.not_lt_zero _)
  | take stage opened => exact absurd (opened.symm.trans closed) Bool.noConfusion
  | lose | drain =>
    rcases List.mem_cons.mp mem with rfl | told
    · rfl
    · exact begins_of_leaving told
  | goesOn flight acts calm =>
    rename_i n i d o' stage as
    rcases List.mem_append.mp mem with did | deed
    · rcases List.mem_map.mp did with ⟨y, act, rfl⟩
      -- What is done by a broadcast that goes on is another attempt.
      cases flight with
      | retries under fire =>
        rename_i run next
        rcases run.fire_acts q.broadcast t.outside with same | more
        · rw [fire] at same
          rw [List.self_eq_append_left.mp (same.symm.trans acts)] at act
          exact absurd act List.not_mem_nil
        · rw [fire] at more
          rw [List.append_cancel_right
            ((acts.symm.trans more).trans List.singleton_append.symm)] at act
          rw [List.mem_singleton.mp act]
          rfl
      | sent _ opened | asks _ opened | pending _ opened =>
        exact absurd (opened.symm.trans closed) Bool.noConfusion
    · exact begins_of_flight closed flight _ deed
  | isOver flight calm =>
    rename_i n i d o' r
    rcases List.mem_cons.mp mem with rfl | deed
    · show Happening.begins (.told (t.reply n r)) = false
      unfold State.reply
      split <;> rfl
    · exact begins_of_flight closed flight _ deed
  | crashes flight calm =>
    rcases List.mem_append.mp mem with left | deed
    · rcases List.mem_cons.mp left with rfl | told
      · rfl
      · exact begins_of_leaving told
    · exact begins_of_flight closed flight _ deed

end Begins

/-- The worker ends at the instant `x`, with the last word and the drain: it is
    gone, or it is not yet and then it is still that instant and its next step is
    due. -/
def Ends (q : Setup σ) (s t : State σ) (since : List (Nat × Happening)) (x : Nat)
    (own : Option (Nat × Response)) : Prop :=
  (t.stage = .ended .finished ∧ t.lifecycle = .stopped ∧ (x, Happening.left .finished) ∈ since ∧
    answers since = closing x own s.buffer) ∨
  (t.now = x ∧ (t.work? q x).isSome = true ∧ answers since <:+ closing x own s.buffer)

-- What has become of the worker after a shutdown, if it is not lost: it was not
-- started yet, or it is still sending, or it ends right after the last word.
theorem Phase.outcome (q : Setup σ) (phase : Phase s t since) (o : Orderly t)
    (closed : t.shutdown = true)
    (kept : ∀ i how, (i, Happening.left how) ∈ since → how = .finished) :
    (s.stage = .unstarted ∧ t.stage = .unstarted ∧ answers since = []) ∨
    (∃ n operation rest, s.stage = .sending n operation ∧ t.stage = .sending n rest ∧
      answers since = []) ∨
    ∃ x own, LastWord s since x own ∧ Ends q s t since x own := by
  cases phase with
  | unstarted before stage same silent => exact Or.inl ⟨before, stage, silent⟩
  | sending before stage same silent =>
    exact Or.inr (Or.inl ⟨_, _, _, before, stage, silent⟩)
  | confirming before stage now same silent =>
    refine Or.inr (Or.inr ⟨_, _, .confirming before, Or.inr ⟨now, ?_, ?_⟩⟩)
    · simp only [State.work?, stage, if_pos closed, Option.isSome_some]
    · rw [silent]
      exact List.nil_suffix
  | idle word stage now same spoken =>
    refine Or.inr (Or.inr ⟨_, _, word, Or.inr ⟨now, ?_, ?_⟩⟩)
    · simp only [State.work?, stage, if_pos closed, Option.isSome_some]
    · rw [spoken]
      exact List.suffix_append _ _
  | gone word stage left told =>
    refine Or.inr (Or.inr ⟨_, _, word, Or.inl ⟨stage, o.stopped ?_, left, told⟩⟩)
    rw [stage]
    exact Option.some_ne_none _
  | lost how stage left => exact absurd (kept _ _ left) how

namespace Phase

-- Where a queue stands at the moment of the shutdown.
theorem of_stop (o : Orderly s) (running : s.lifecycle = .running) :
    Phase s s.stop.2 [] ∧ s.stop.2.shutdown = true := by
  rcases s.close_shape with ⟨m, shape⟩
  unfold State.stop
  rw [if_pos running]
  dsimp only
  rw [shape]
  refine ⟨?_, rfl⟩
  cases stage : s.stage with
  | unstarted => exact .unstarted stage stage rfl rfl
  | idle => exact .idle (.idle stage) stage rfl rfl rfl
  | sending n operation => exact .sending stage stage rfl rfl
  | confirming n began wait => exact .confirming stage stage rfl rfl rfl
  | ended how =>
    rw [o.stopped (by rw [stage]; exact Option.some_ne_none how)] at running
    exact Lifecycle.noConfusion running

end Phase

-- A closed queue turns a caller away at once.
theorem State.enqueue_closed (places : Nat) (send : Send) (closed : s.shutdown = true) :
    s.enqueue places send = { s with asked := s.asked + 1 }.reject s.asked := by
  unfold enqueue
  rw [closed, Bool.true_or, if_pos rfl]

/-- What a shutdown brought about in `c` has done when the run has come to `d`, and
    `since` has been written down since. -/
structure CleanCut (q : Setup σ) (c d : Chronicle σ) (since : List (Nat × Happening)) : Prop where
  /-- Everybody who waited for a place was turned away at that moment. -/
  history : d.history = since ++ (State.toldAll (c.state.refusals c.state.inLine) ++
    (c.state.now, .closed) :: c.history)
  /-- Whoever asks is turned away at once. -/
  refused : ∀ send, d.state.enqueue q.places send =
    { d.state with asked := d.state.asked + 1 }.reject d.state.asked
  /-- Nothing has begun. -/
  silent : ∀ x ∈ since, x.2.begins = false
  /-- The transaction that was waited for is the one that its send operation
      gave. -/
  own : ∀ n began wait, c.state.stage = .confirming n began wait →
    (began, Happening.returned n (.value wait.tx)) ∈ c.history
  /-- Unless it was lost, the worker was not started, or is still sending, or has
      said its last word, answered what was stored as closed, and ended, all at one
      instant. -/
  outcome : (∀ i how, (i, Happening.left how) ∈ since → how = .finished) →
    (c.state.stage = .unstarted ∧ d.state.stage = .unstarted ∧ answers since = []) ∨
    (∃ n operation rest, c.state.stage = .sending n operation ∧
      d.state.stage = .sending n rest ∧ answers since = []) ∨
    ∃ x own, LastWord c.state since x own ∧ Ends q c.state d.state since x own

theorem Chronicle.move_stop {c : Chronicle σ} (held : c.state.held = true)
    (running : c.state.lifecycle = .running) :
    c.move q (.call .stop) = ⟨c.state.stop.2,
      (State.toldAll (c.state.refusals c.state.inLine) ++ [(c.state.now, .closed)]) ++
        c.history⟩ := by
  have moved : c.state.move q (.call .stop) = c.state.stop.2 := by
    unfold State.move State.call
    exact if_pos held
  have hist := Step.entries_stop running
  unfold move
  dsimp only
  rw [moved]
  unfold State.deedOf?
  rw [hist]

-- A shutdown that is brought about is a clean cut, whatever happens afterwards.
theorem CleanCut.of_stop {c : Chronicle σ} (known : Recorded q c.state c.history)
    (orderly : Orderly c.state) (held : c.state.held = true)
    (running : c.state.lifecycle = .running) (after : List Move) :
    ∃ since, CleanCut q c ((c.move q (.call .stop)).play q after) since := by
  have cut := Chronicle.move_stop (q := q) held running
  rcases Phase.of_stop orderly running with ⟨start, shut⟩
  have close : Orderly c.state.stop.2 := by
    unfold State.stop
    rw [if_pos running]
    exact orderly.kept (Step.close (q := q) held running)
  -- Every step keeps the way, and nothing begins on it.
  have way : ∃ since,
      ((c.move q (.call .stop)).play q after).history =
        since ++ (c.move q (.call .stop)).history ∧
      Orderly ((c.move q (.call .stop)).play q after).state ∧
      ((c.move q (.call .stop)).play q after).state.shutdown = true ∧
      Phase c.state ((c.move q (.call .stop)).play q after).state since ∧
      ∀ x ∈ since, x.2.begins = false := by
    refine Chronicle.step_induction q
      (P := fun e => ∃ since, e.history = since ++ (c.move q (.call .stop)).history ∧
        Orderly e.state ∧ e.state.shutdown = true ∧ Phase c.state e.state since ∧
        ∀ x ∈ since, x.2.begins = false) ?_ after (c.move q (.call .stop)) ?_
    · rintro e h t step ⟨since, history, o, closed, phase, silent⟩
      refine ⟨h ++ since, ?_, o.kept step, step.closed_iff.mpr (Or.inl closed),
        phase.kept step o closed, ?_⟩
      · rw [List.append_assoc, ← history]
      · intro x mem
        rcases List.mem_append.mp mem with new | old
        · exact step.begins o closed new
        · exact silent x old
    · rw [cut]
      exact ⟨[], rfl, close, shut, start, fun x mem => absurd mem List.not_mem_nil⟩
  rcases way with ⟨since, history, o, closed, phase, silent⟩
  refine ⟨since, ?_, fun send => State.enqueue_closed q.places send closed, silent, ?_,
    phase.outcome q o closed⟩
  · rw [history, cut, List.append_assoc]
    rfl
  · exact fun n began wait stage => (known.confirming n began wait stage).returned

end Queue

end TxRelay
