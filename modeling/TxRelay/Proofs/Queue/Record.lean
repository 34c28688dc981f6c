import TxRelay.Proofs.Queue.History
import TxRelay.Proofs.Queue.Ledger

/-!
# What the History Knows About a Submission in Flight

The state of a wait for confirmation says when the send operation ended, which
transaction it gave and when the wait is over. `Watching` says that the history
agrees: it holds the end of the send operation, the lookups made since and
nothing else about the submission, and none of the lookups found the transaction
gone. `Recorded` says it of a whole state, along with the other half: of a
submission whose send operation has not ended the history knows nothing.

## Main definitions

* `Queue.Watching`: What the history knows during a wait.
* `Queue.Recorded`: What it knows about every submission that has no answer.

## Theorems

* `Queue.Step.stage_cases`: How a step changes what the worker does.
* `Queue.Recorded.kept`: Every step keeps the record.
-/

namespace TxRelay

-- A lookup that is answered was under way.
theorem Confirmation.Wait.asking_of_answer {w : Wait} {i : Nat} {outcome : Outcome Bool}
    (h : w.next = .answer i outcome) : ∃ answer, w.phase = .asking answer := by
  cases phase : w.phase with
  | asking answer => exact ⟨answer, rfl⟩
  | resting =>
    unfold next at h
    rw [phase] at h
    dsimp only at h
    split at h
    · exact absurd h (by simp only [reduceCtorEq, not_false_eq_true])
    · exact absurd h (by simp only [reduceCtorEq, not_false_eq_true])

-- After the answer to a lookup a wait rests.
theorem Confirmation.Wait.resting_of_answer {σ : Type} {lookup : Lookup σ} {w v : Wait}
    {s : Surroundings σ} {i : Nat} {outcome : Outcome Bool} (h : w.next = .answer i outcome)
    (on : (w.fire lookup s).1 = .inr v) : v.phase = .resting := by
  rcases outcome with (_ | _) | f | text
  · rw [fire_settled h] at on
    exact absurd on (by simp only [reduceCtorEq, not_false_eq_true])
  · rw [fire_pending h] at on
    rw [← Sum.inr.inj on]
  · rw [fire_failure h] at on
    rw [← Sum.inr.inj on]
  · rw [fire_crash h] at on
    exact absurd on (by simp only [reduceCtorEq, not_false_eq_true])

-- A lookup after whose answer a wait goes on did not find the transaction
-- gone.
theorem Confirmation.Wait.pending_of_fire {σ : Type} {lookup : Lookup σ} {w v : Wait}
    {s : Surroundings σ} {i : Nat} {outcome : Outcome Bool} (h : w.next = .answer i outcome)
    (on : (w.fire lookup s).1 = .inr v) : outcome ≠ .value false := by
  rintro rfl
  rw [fire_settled h] at on
  exact absurd on (by simp only [reduceCtorEq, not_false_eq_true])

namespace Queue

variable {σ : Type} {q : Setup σ} {s t : State σ} {h history : List (Nat × Happening)}

/-- How a step changes what the worker does: not at all; it is left with nothing
    in flight; it takes an entry; or the submission in flight goes on. -/
theorem Step.stage_cases (step : Step q s h t) :
    (t.stage = s.stage ∧ ∀ n, learned n h = []) ∨ t.stage.ticket? = none ∨
    (∃ e rest, s.stage = .idle ∧ s.buffer = e :: rest ∧ t = s.receive q e rest) ∨
    ∃ n i d o stage as, Flight q s n i d o (.on stage) ∧ o.acts = as ++ s.outside.acts ∧
      t = { s.after i o with stage := stage } ∧
      h = State.didAll as ++ d.toList.map fun x => (max s.now i, x) := by
  have gone (how : Ending) (u : State σ) : (u.leave how).stage.ticket? = none := by
    rw [(u.leave_cleared how).2]
    rfl
  cases step with
  | start => exact Or.inr (Or.inl rfl)
  | turnAway | accept | lineUp | leaveLine | depart | dropHandle | store | wait =>
    exact Or.inl ⟨rfl, fun _ => rfl⟩
  | close held running =>
    rcases s.close_shape with ⟨m, shape⟩
    refine Or.inl ⟨by rw [shape]; rfl, fun n => ?_⟩
    rw [learned_append, learned_toldAll]
    rfl
  | take stage opened buffer => exact Or.inr (Or.inr (Or.inl ⟨_, _, stage, buffer, rfl⟩))
  | goesOn flight acts calm =>
    exact Or.inr (Or.inr (Or.inr ⟨_, _, _, _, _, _, flight, acts, rfl, rfl⟩))
  | isOver flight calm => exact Or.inr (Or.inl rfl)
  | lose | crashes | drain | finish => exact Or.inr (Or.inl (gone _ _))

/-- What the history knows about a submission whose transaction is waited for. -/
structure Watching (q : Setup σ) (n began : Nat) (wait : Confirmation.Wait)
    (history : List (Nat × Happening)) : Prop where
  /-- The send operation gave the transaction when the wait began. -/
  returned : (began, Happening.returned n (.value wait.tx)) ∈ history
  /-- Nothing else is known but lookups of that transaction since, none of which
      found it gone. -/
  only : ∀ x ∈ learned n history, x = (began, .returned n (.value wait.tx)) ∨
    (∃ i, began ≤ i ∧ x = (i, .asked n wait.tx)) ∨
    ∃ i l outcome, outcome ≠ .value false ∧ x = (i, .heard n wait.tx l outcome)
  /-- The wait is over at its limit. -/
  deadline : wait.deadline = began + q.plan.limit
  /-- Its steps came after it began. -/
  began_le : began ≤ wait.since
  /-- Its steps came before it is over. -/
  timely : wait.Timely
  /-- A lookup under way was made at the last step. -/
  asking : ∀ answer, wait.phase = .asking answer →
    (wait.since, Happening.asked n wait.tx) ∈ history ∧
      (wait.since, Happening.did (.lookup wait.tx.chain wait.tx.hash)) ∈ history

namespace Watching

variable {n began : Nat} {wait : Confirmation.Wait}

-- What is learned about others changes nothing.
theorem mono (w : Watching q n began wait history) (other : learned n h = []) :
    Watching q n began wait (h ++ history) := by
  refine ⟨List.mem_append_right h w.returned, ?_, w.deadline, w.began_le, w.timely, ?_⟩
  · rw [learned_append, other]
    exact w.only
  · intro answer phase
    rcases w.asking answer phase with ⟨asked, did⟩
    exact ⟨List.mem_append_right h asked, List.mem_append_right h did⟩

-- A wait begins.
theorem begin {tx : Submitted} (paced : 0 < q.plan.interval)
    (unknown : learned n history = []) (now : Nat) (as : List (Nat × Act)) :
    Watching q n now (.begin q.plan paced now tx)
      ((State.didAll as ++ [(now, .returned n (.value tx))]) ++ history) := by
  refine ⟨?_, ?_, rfl, Nat.le_refl now, Confirmation.Wait.timely_begin q.plan paced now tx, ?_⟩
  · exact List.mem_append_left history (List.mem_append_right _ (List.mem_singleton.mpr rfl))
  · intro x mem
    rw [learned_append, learned_append, learned_didAll, unknown, List.append_nil,
      List.nil_append] at mem
    exact Or.inl (List.mem_singleton.mp (List.mem_filter.mp mem).1)
  · intro answer phase
    exact absurd phase (by simp only [Confirmation.Wait.begin, reduceCtorEq, not_false_eq_true])

-- A wait goes on. What its step brings to light is a lookup of the transaction,
-- or the answer to one that did not find it gone.
theorem goesOn {next : Confirmation.Wait} {x : Happening} (w : Watching q n began wait history)
    (frame : next.tx = wait.tx ∧ next.deadline = wait.deadline ∧ next.since = wait.due)
    (deed : x = .asked n wait.tx ∨
      ∃ l outcome, outcome ≠ .value false ∧ x = .heard n wait.tx l outcome)
    (as : List (Nat × Act))
    (asking : ∀ answer, next.phase = .asking answer → x = .asked n wait.tx ∧
      (wait.due, Act.lookup wait.tx.chain wait.tx.hash) ∈ as) :
    Watching q n began next ((State.didAll as ++ [(wait.due, x)]) ++ history) := by
  rcases frame with ⟨tx, deadline, since⟩
  have later : began ≤ wait.due := Nat.le_trans w.began_le wait.since_le_due
  refine ⟨?_, ?_, deadline.trans w.deadline, since ▸ later, ?_, ?_⟩
  · rw [tx]
    exact List.mem_append_right _ w.returned
  · intro y mem
    rw [learned_append, learned_append, learned_didAll, List.nil_append] at mem
    rw [tx]
    rcases List.mem_append.mp mem with new | old
    · rw [List.mem_singleton.mp (List.mem_filter.mp new).1]
      rcases deed with rfl | ⟨l, outcome, pending, rfl⟩
      · exact Or.inr (Or.inl ⟨wait.due, later, rfl⟩)
      · exact Or.inr (Or.inr ⟨wait.due, l, outcome, pending, rfl⟩)
    · exact w.only y old
  · unfold Confirmation.Wait.Timely
    rw [since, deadline]
    exact Confirmation.Wait.due_le_deadline w.timely
  · intro answer phase
    rcases asking answer phase with ⟨rfl, did⟩
    rw [since, tx]
    refine ⟨?_, ?_⟩
    · exact List.mem_append_left history (List.mem_append_right _ (List.mem_singleton.mpr rfl))
    · refine List.mem_append_left history (List.mem_append_left _ ?_)
      exact List.mem_map.mpr ⟨_, did, rfl⟩

end Watching

/-- What the history knows about every submission that has no answer. -/
structure Recorded (q : Setup σ) (s : State σ) (history : List (Nat × Happening)) : Prop where
  /-- Every ticket is in its place. -/
  ledger : Ledger s
  /-- The clock is on time. -/
  punctual : Punctual s
  /-- The history holds what callers were told. -/
  events : s.events = said history
  /-- The history holds what was done. -/
  acts : s.outside.acts = done history
  /-- Every lookup that was made is attributed to a submission, in the order in
      which they were made. -/
  lookups : lookups s.outside.acts = inquiries history
  /-- The history knows whether the queue was closed. -/
  closed : s.shutdown = true ↔ ∃ i, (i, Happening.closed) ∈ history
  /-- The send operation of a submission in flight began. -/
  begun : ∀ n, s.stage.ticket? = some n → n ∈ s.sent
  /-- Nothing is known about a submission whose send operation did not begin. -/
  unsent : ∀ n, n ∉ s.sent → learned n history = []
  /-- Nothing is known about a submission whose send operation did not end. -/
  sending : ∀ n operation, s.stage = .sending n operation → learned n history = []
  /-- What is known about a submission whose transaction is waited for. -/
  confirming : ∀ n began wait, s.stage = .confirming n began wait →
    Watching q n began wait history

namespace Recorded

-- Nothing is known about a queue nobody used yet.
theorem fresh (q : Setup σ) (world : σ) : Recorded q (State.fresh (.fresh world)) [] := by
  refine ⟨Ledger.fresh world, Punctual.of_free rfl, rfl, rfl, rfl, ?_, ?_, fun _ _ => rfl,
    fun _ _ _ => rfl, ?_⟩
  · refine ⟨fun closed => Bool.noConfusion closed, ?_⟩
    rintro ⟨i, mem⟩
    exact absurd mem List.not_mem_nil
  · exact fun n flight => absurd flight
      (by simp only [State.fresh, Stage.ticket?, reduceCtorEq, not_false_eq_true])
  · exact fun n began wait stage => absurd stage
      (by simp only [State.fresh, reduceCtorEq, not_false_eq_true])

-- What is stored was not sent.
theorem not_sent_of_mem (l : Ledger s) {e : Entry} (mem : e ∈ s.buffer) : e.ticket ∉ s.sent := by
  intro sent
  have taken := l.taken e.ticket
  have once := l.accepted_le e.ticket
  have here := List.count_pos_iff.mpr sent
  have there : 0 < (s.buffer.map Entry.ticket).count e.ticket :=
    List.count_pos_iff.mpr (List.mem_map.mpr ⟨e, mem, rfl⟩)
  omega

-- Nothing is known about a submission whose operation begins.
theorem sending_kept (r : Recorded q s history) (step : Step q s h t) (n : Nat)
    (operation : Sending) (stage : t.stage = .sending n operation) :
    learned n (h ++ history) = [] := by
  have flight : t.stage.ticket? = some n := by rw [stage]; rfl
  rcases step.stage_cases with ⟨same, nothing⟩ | free | ⟨e, rest, idle, buffer, rfl⟩ |
    ⟨m, i, d, o, next, as, step', acts, rfl, rfl⟩
  · rw [learned_append, nothing n, r.sending n operation (same.symm.trans stage)]
    rfl
  · exact absurd (free.symm.trans flight) (by simp only [reduceCtorEq, not_false_eq_true])
  · have taken : e.ticket = n :=
      Option.some.inj ((s.receive_frame q e rest).2.symm.trans flight)
    have stored : e ∈ s.buffer := by rw [buffer]; exact List.mem_cons_self
    have other : s.stage.ticket? ≠ some n := by
      rw [idle]
      simp only [Stage.ticket?, ne_eq, reduceCtorEq, not_false_eq_true]
    rw [learned_append, step.learned_of_ne other, ← taken,
      r.unsent e.ticket (not_sent_of_mem r.ledger stored)]
    rfl
  · -- Of the steps that go on only the retry of a broadcast is one of sending.
    cases step' with
    | retries before fire =>
      have same : m = n := (Stage.sending.inj stage).1
      rw [learned_append, learned_append, learned_didAll, ← same, r.sending m _ before]
      rfl
    | sent => exact absurd stage (by simp only [reduceCtorEq, not_false_eq_true])
    | asks => exact absurd stage (by simp only [reduceCtorEq, not_false_eq_true])
    | pending => exact absurd stage (by simp only [reduceCtorEq, not_false_eq_true])

-- A wait is known from its beginning.
theorem confirming_kept (r : Recorded q s history) (step : Step q s h t) (n began : Nat)
    (wait : Confirmation.Wait) (stage : t.stage = .confirming n began wait) :
    Watching q n began wait (h ++ history) := by
  have flight : t.stage.ticket? = some n := by rw [stage]; rfl
  rcases step.stage_cases with ⟨same, nothing⟩ | free | ⟨e, rest, idle, buffer, rfl⟩ |
    ⟨m, i, d, o, next, as, step', acts, rfl, rfl⟩
  · exact (r.confirming n began wait (same.symm.trans stage)).mono (nothing n)
  · exact absurd (free.symm.trans flight) (by simp only [reduceCtorEq, not_false_eq_true])
  · refine absurd stage ?_
    unfold State.receive
    cases e.send <;> simp only [reduceCtorEq, not_false_eq_true]
  · have due := r.punctual.now_flight step'
    cases step' with
    | retries before fire => exact absurd stage (by simp only [reduceCtorEq, not_false_eq_true])
    | sent returns opened paced =>
      -- Before the end of its send operation nothing was known.
      rename_i tx
      rcases Stage.confirming.inj stage with ⟨rfl, rfl, rfl⟩
      have unknown : learned m history = [] := by
        rcases returns.sending with ⟨operation, before⟩
        exact r.sending m operation before
      exact Watching.begin paced unknown _ as
    | asks before opened tick fire =>
      rename_i began' wait' next'
      rcases Stage.confirming.inj stage with ⟨rfl, rfl, rfl⟩
      have instant : wait'.due = i := congrArg Confirmation.Wait.Next.instant tick
      have watching := r.confirming m began' wait' before
      rw [due, ← instant]
      refine watching.goesOn (Confirmation.Wait.fire_frame (congrArg Prod.fst fire))
        (Or.inl rfl) as ?_
      intro answer phase
      refine ⟨rfl, ?_⟩
      -- The lookup is all that the step does.
      have made : o = _ :=
        congrArg Prod.snd (fire.symm.trans (Confirmation.Wait.fire_tick tick))
      have more : as ++ s.outside.acts =
          [(i, .lookup wait'.tx.chain wait'.tx.hash)] ++ s.outside.acts := by
        rw [← acts, made]
        rfl
      rw [List.append_cancel_right more, instant]
      exact List.mem_singleton.mpr rfl
    | pending before opened answer fire =>
      rename_i began' wait' next' outcome
      rcases Stage.confirming.inj stage with ⟨rfl, rfl, rfl⟩
      have instant : wait'.due = i := congrArg Confirmation.Wait.Next.instant answer
      have watching := r.confirming m began' wait' before
      rw [due, ← instant]
      have on := congrArg Prod.fst fire
      refine watching.goesOn (Confirmation.Wait.fire_frame on)
        (Or.inr ⟨_, _, Confirmation.Wait.pending_of_fire answer on, rfl⟩) as ?_
      -- After an answer no lookup is under way.
      intro later phase
      rw [Confirmation.Wait.resting_of_answer answer on] at phase
      exact absurd phase (by simp only [reduceCtorEq, not_false_eq_true])

-- The operation of what is in flight began.
theorem begun_kept (r : Recorded q s history) (step : Step q s h t) (n : Nat)
    (flight : t.stage.ticket? = some n) : n ∈ t.sent := by
  rw [State.sent_of_acts step.done_eq]
  rcases step.stage_cases with ⟨same, nothing⟩ | free | ⟨e, rest, idle, buffer, rfl⟩ |
    ⟨m, i, d, o, next, as, step', acts, rfl, rfl⟩
  · rw [same] at flight
    exact List.mem_append_right _ (r.begun n flight)
  · exact absurd (free.symm.trans flight) (by simp only [reduceCtorEq, not_false_eq_true])
  · rw [← State.sent_of_acts step.done_eq, State.sent_of_acts (Step.acts_receive q e rest s)]
    have taken : e.ticket = n :=
      Option.some.inj ((s.receive_frame q e rest).2.symm.trans flight)
    refine List.mem_append_left _ ?_
    rw [taken.symm]
    unfold Entry.opening
    cases e.send <;> exact List.mem_cons_self
  · have same : m = n := Option.some.inj (step'.ticket?_on.symm.trans flight)
    exact List.mem_append_right _ (r.begun n (same ▸ step'.ticket?))

/-- Every step keeps the record. -/
theorem kept (step : Step q s h t) (r : Recorded q s history) : Recorded q t (h ++ history) := by
  refine ⟨r.ledger.kept step, r.punctual.kept step, ?_, ?_, ?_, ?_, r.begun_kept step, ?_,
    r.sending_kept step, r.confirming_kept step⟩
  · rw [step.said_eq, said_append, r.events]
  · rw [step.done_eq, done_append, r.acts]
  · rw [step.done_eq, lookups_append, inquiries_append, r.lookups, step.lookups_eq r.punctual]
  · rw [step.closed_iff, r.closed]
    constructor
    · rintro (⟨i, mem⟩ | ⟨i, mem⟩)
      · exact ⟨i, List.mem_append_right h mem⟩
      · exact ⟨i, List.mem_append_left history mem⟩
    · rintro ⟨i, mem⟩
      rcases List.mem_append.mp mem with mem | mem
      · exact Or.inr ⟨i, mem⟩
      · exact Or.inl ⟨i, mem⟩
  · intro n unsent
    rw [State.sent_of_acts step.done_eq] at unsent
    have before : n ∉ s.sent := fun sent => unsent (List.mem_append_right _ sent)
    have other : s.stage.ticket? ≠ some n := fun flight => before (r.begun n flight)
    rw [learned_append, step.learned_of_ne other, r.unsent n before]
    rfl

-- Every run keeps the record.
theorem play (q : Setup σ) (moves : List Move) (world : σ) :
    Recorded q ((Chronicle.fresh world).play q moves).state
      ((Chronicle.fresh world).play q moves).history :=
  Chronicle.step_induction q (P := fun c => Recorded q c.state c.history)
    (fun _ _ _ step before => before.kept step) moves _ (fresh q world)

end Recorded

end Queue

end TxRelay
