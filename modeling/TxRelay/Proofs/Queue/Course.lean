import TxRelay.Proofs.Broadcast.Alone
import TxRelay.Proofs.Confirmation.Alone
import TxRelay.Proofs.Queue.Punctual

/-!
# The Course of a Submission

What becomes of a submission that is worked on from some instant on, with nobody
else around: its send operation runs, and if that gives a transaction the
transaction is waited for. The chains it finds decide everything, so its course
can be told before the worker takes a single step of it.

The worker interleaves its steps with callers who come and go. `ofStage` tells what
is left of a course from a stage in the middle of it, and the worker's steps follow
it: a step that goes on leaves the same course, and a step that ends the work does
so when and how the course says.

## Main definitions

* `Queue.Course`: What is done for a submission, and how it ends.
* `Queue.Course.alone`: The course of a submission.
* `Queue.Course.ofStage`: What a stage leaves of it.
* `Queue.Course.Tidy`: A course in the order of time.

## Theorems

* `Queue.Course.alone_eq`: Taking an entry sets out on its course.
* `Queue.Flight.course_on`, `course_over`, `course_crash`: The worker keeps to the
  course.
* `Queue.Course.tidy_alone`: A course is in the order of time.
-/

namespace TxRelay

namespace Queue

open Broadcast (Solo)
open Confirmation (Watch)

variable {σ : Type}

/-- How the work on a submission ends. -/
inductive Close where
  /-- It is answered. -/
  | answered (instant : Nat) (r : Response)
  /-- It does not end. -/
  | never
  /-- It takes the worker down. -/
  | crashed (instant : Nat) (text : String)
  deriving DecidableEq

/-- The instant at which the work ends. -/
def Close.instant? : Close → Option Nat
  | .answered i _ => some i
  | .never => none
  | .crashed i _ => some i

/-- What is done for a submission, and how it ends. -/
structure Course (σ : Type) where
  /-- What is asked of the chains, the latest first. -/
  acts : List (Nat × Act)
  /-- The chains afterwards. -/
  world : σ
  /-- The end. -/
  close : Close

namespace Course

/-- A course that ends as a wait for confirmation did. -/
def ofWatch (tx : Submitted) (v : Watch σ) : Course σ where
  acts := v.outside.acts
  world := v.outside.world
  close := match v.state with
    | .inl .settled => .answered v.now (.submitted tx)
    | .inl .missing => .answered v.now (.failed (.transactionMissing tx.hash))
    | .inl (.crashed text) => .crashed v.now text
    | .inr _ => .never

/-- A course after its send operation ended at some instant. -/
def ofOutcome (q : Setup σ) (i : Nat) (o : Surroundings σ) : Outcome Submitted → Course σ
  | .value tx =>
    ofWatch tx ((Watch.begin q.plan i none tx o).runTo q.lookup (i + q.plan.limit))
  | .failure f => ⟨o.acts, o.world, .answered i (.failed f)⟩
  | .crash text => ⟨o.acts, o.world, .crashed i text⟩

/-- A course after its broadcast was run. -/
def ofSolo (q : Setup σ) (b : Solo σ) : Course σ :=
  match b.state with
  | .inl outcome => ofOutcome q b.now b.outside outcome
  | .inr _ => ⟨b.outside.acts, b.outside.world, .never⟩

/-- The course of a submission that is taken up at some instant. -/
def alone (q : Setup σ) (n : Nat) (send : Send) (start : Nat) (world : σ) : Course σ :=
  let o := (Surroundings.fresh world).note start (.send n)
  match send with
  | .direct reply =>
    match reply.calledAt start with
    | .arriving i outcome => ofOutcome q i o outcome
    | .never => ⟨o.acts, o.world, .never⟩
  | .relay chain raw =>
    ofSolo q ((Solo.begin q.broadcast q.policy start chain raw o).finish q.broadcast)

/-- The course of a submission that is at some stage, where `own` is what it did so
    far and the chains it finds. -/
def ofStage (q : Setup σ) (now : Nat) (own : Surroundings σ) : Stage → Course σ
  | .sending _ (.direct (.arriving i outcome)) => ofOutcome q i own outcome
  | .sending _ (.relay run) => ofSolo q (Solo.finish q.broadcast ⟨now, .inr run, own⟩)
  | .confirming _ _ wait =>
    ofWatch wait.tx (Watch.runTo q.lookup wait.deadline ⟨now, none, .inr wait, own⟩)
  | _ => ⟨own.acts, own.world, .never⟩

end Course

/-- What a submission did on its own, as part of a longer record. -/
structure Shares (own o : Surroundings σ) (old : List (Nat × Act)) : Prop where
  /-- The chains are the same. -/
  world : own.world = o.world
  /-- The longer record goes on from an older one. -/
  acts : o.acts = own.acts ++ old

-- Taking an entry sets out on its course.
theorem Course.alone_eq (q : Setup σ) (e : Entry) (rest : List Entry) (s : State σ) :
    ∃ own, Shares own (s.receive q e rest).outside s.outside.acts ∧
      (∀ x ∈ own.acts, x.1 = s.now) ∧
      ofStage q s.now own (s.receive q e rest).stage =
        alone q e.ticket e.send s.now s.outside.world := by
  have acts := Step.acts_receive q e rest s
  rcases e with ⟨n, reply | ⟨chain, raw⟩⟩
  · refine ⟨(Surroundings.fresh s.outside.world).note s.now (.send n), ⟨?_, acts⟩, ?_, ?_⟩
    · unfold State.receive
      dsimp only
      rw [Surroundings.world_note, Surroundings.world_note, Surroundings.world_measure]
      rfl
    · intro x mem
      rw [List.mem_singleton.mp mem]
    · cases reply <;> rfl
  · -- A broadcast begins with an attempt, which asks the chains.
    refine ⟨(Solo.begin q.broadcast q.policy s.now chain raw
      ((Surroundings.fresh s.outside.world).note s.now (.send n))).outside, ⟨?_, acts⟩, ?_, ?_⟩
    · unfold State.receive Solo.begin Broadcast.Run.begin Broadcast.Run.call Surroundings.call
      dsimp only
      rw [Surroundings.world_note, Surroundings.world_note, Surroundings.world_measure]
      rfl
    · intro x mem
      rcases List.mem_cons.mp mem with rfl | mem
      · rfl
      · rw [List.mem_singleton.mp mem]
    · unfold State.receive alone Solo.begin Broadcast.Run.begin Broadcast.Run.call Surroundings.call
      dsimp only [ofStage]
      rw [Surroundings.world_note, Surroundings.world_note, Surroundings.world_measure]
      rfl

namespace Shares

variable {own o : Surroundings σ} {old : List (Nat × Act)}

-- A step of a broadcast does the same alone.
theorem fire_run (h : Shares own o old) (send : Broadcaster σ) (r : Broadcast.Run) :
    (r.fire send own).1 = (r.fire send o).1 ∧
      Shares (r.fire send own).2 (r.fire send o).2 old := by
  rcases r.fire_congr send h.world with ⟨same, world, a, alone, along⟩
  refine ⟨same, world, ?_⟩
  rw [along, alone, h.acts, List.append_assoc]

-- A step of a wait does the same alone.
theorem fire_wait (h : Shares own o old) (lookup : Lookup σ) (w : Confirmation.Wait) :
    (w.fire lookup own).1 = (w.fire lookup o).1 ∧
      Shares (w.fire lookup own).2 (w.fire lookup o).2 old := by
  rcases w.fire_congr lookup h.world with ⟨same, world, a, alone, along⟩
  refine ⟨same, world, ?_⟩
  rw [along, alone, h.acts, List.append_assoc]

end Shares

/-- A wait that is under way is not past its deadline. -/
def Stage.Timely : Stage → Prop
  | .confirming _ _ wait => wait.Timely
  | _ => True

namespace Flight

open Course

variable {q : Setup σ} {s : State σ} {n i : Nat} {d : Option Happening} {own o : Surroundings σ}
  {old : List (Nat × Act)}

-- A send operation that ends is followed by what its outcome asks for.
theorem course_of_returns {outcome : Outcome Submitted} (returns : Returns q s n i outcome o)
    (h : Shares own s.outside old) (now : s.now ≤ i) :
    ofStage q s.now own s.stage = ofOutcome q i own outcome ∧ o = s.outside := by
  cases returns with
  | direct stage =>
    rw [stage]
    exact ⟨rfl, rfl⟩
  | relay stage fire =>
    -- The broadcast ends with this step, alone as in the queue.
    rename_i run
    rcases h.fire_run q.broadcast run with ⟨same, -⟩
    have ends : (run.fire q.broadcast own).1 = .inl outcome := by rw [same, fire]
    refine ⟨?_, ?_⟩
    · rw [stage]
      unfold ofStage
      dsimp only
      rw [Solo.finish_of_run rfl, ends, run.fire_over ends, Solo.finish_of_over rfl,
        Nat.max_eq_right now]
      rfl
    · have still := run.fire_over (congrArg Prod.fst fire)
      rw [← still, fire]

-- A step of a wait keeps to the course.
theorem course_of_wait {began : Nat} {wait : Confirmation.Wait}
    (stage : s.stage = .confirming n began wait) (now : s.now ≤ wait.due) (timely : wait.Timely) :
    ofStage q s.now own s.stage =
      ofWatch wait.tx (Watch.runTo q.lookup wait.deadline
        ⟨wait.due, none, (wait.fire q.lookup own).1, (wait.fire q.lookup own).2⟩) := by
  rw [stage]
  unfold ofStage
  dsimp only
  rw [Watch.runTo_of_run rfl rfl (wait.due_le_deadline timely), Nat.max_eq_right now]

-- A step that ends a wait ends the course.
theorem course_of_verdict {began : Nat} {wait : Confirmation.Wait} {v : Confirmation.Verdict}
    (stage : s.stage = .confirming n began wait) (instant : wait.due = i) (now : s.now ≤ i)
    (timely : s.stage.Timely) (fired : wait.fire q.lookup own = (.inl v, own)) :
    ofStage q s.now own s.stage = ofWatch wait.tx ⟨i, none, .inl v, own⟩ := by
  rw [stage] at timely
  rw [course_of_wait stage (instant ▸ now) timely, fired, Watch.runTo_of_over rfl, instant]

/-- A step after which the submission is still in flight leaves its course as it
    was. -/
theorem course_on {stage : Stage} (flight : Flight q s n i d o (.on stage))
    (h : Shares own s.outside old) (now : s.now ≤ i) (timely : s.stage.Timely) :
    ∃ own', Shares own' o old ∧ ofStage q i own' stage = ofStage q s.now own s.stage ∧
      (∀ x ∈ own'.acts, x ∈ own.acts ∨ x.1 = i) ∧ stage.Timely := by
  -- A lookup and its answer are steps of the wait, and differ in the instant alone.
  have waits {began wait next} (under : s.stage = .confirming n began wait)
      (instant : wait.due = i) (fire : wait.fire q.lookup s.outside = (.inr next, o)) :
      ∃ own', Shares own' o old ∧
        ofStage q i own' (.confirming n began next) = ofStage q s.now own s.stage ∧
        (∀ x ∈ own'.acts, x ∈ own.acts ∨ x.1 = i) ∧
        (Stage.confirming n began next).Timely := by
    rcases h.fire_wait q.lookup wait with ⟨same, shares⟩
    have going : (wait.fire q.lookup own).1 = .inr next := by rw [same, fire]
    rcases Confirmation.Wait.fire_frame going with ⟨tx, deadline, -⟩
    have intime : wait.Timely := by
      rw [under] at timely
      exact timely
    rw [fire] at shares
    refine ⟨(wait.fire q.lookup own).2, shares, ?_, ?_, ?_⟩
    · rw [course_of_wait under (instant ▸ now) intime, going, instant]
      unfold ofStage
      dsimp only
      rw [tx, deadline]
    · intro x mem
      rcases wait.fire_acts q.lookup own with still | more
      · exact Or.inl (still ▸ mem)
      · rw [more] at mem
        rcases List.mem_cons.mp mem with rfl | mem
        · exact Or.inr instant
        · exact Or.inl mem
    · exact Confirmation.Wait.timely_fire intime going
  cases flight with
  | retries under fire =>
    rename_i run next
    rcases h.fire_run q.broadcast run with ⟨same, shares⟩
    have going : (run.fire q.broadcast own).1 = .inr next := by rw [same, fire]
    rw [fire] at shares
    refine ⟨(run.fire q.broadcast own).2, shares, ?_, ?_, trivial⟩
    · rw [under]
      unfold ofStage
      dsimp only
      rw [← going, Solo.finish_of_run rfl (b := ⟨s.now, .inr run, own⟩), Nat.max_eq_right now]
    · intro x mem
      rcases run.fire_acts q.broadcast own with still | more
      · exact Or.inl (still ▸ mem)
      · rw [more] at mem
        rcases List.mem_cons.mp mem with rfl | mem
        · exact Or.inr rfl
        · exact Or.inl mem
  | sent returns opened paced =>
    rename_i tx
    rcases course_of_returns returns h now with ⟨course, rfl⟩
    refine ⟨own, h, ?_, fun x mem => Or.inl mem,
      Confirmation.Wait.timely_begin q.plan paced (max s.now i) tx⟩
    rw [course, Nat.max_eq_right now]
    unfold ofStage ofOutcome Watch.begin
    dsimp only
    rw [dif_pos paced]
    rfl
  | asks under opened tick fire =>
    exact waits under (congrArg Confirmation.Wait.Next.instant tick) fire
  | pending under opened answer fire =>
    exact waits under (congrArg Confirmation.Wait.Next.instant answer) fire

-- A step that answers the submission is the end of its course.
theorem course_over {r : Response} (flight : Flight q s n i d o (.answered r))
    (opened : s.shutdown = false) (h : Shares own s.outside old) (now : s.now ≤ i)
    (timely : s.stage.Timely) :
    ofStage q s.now own s.stage = ⟨own.acts, own.world, .answered i r⟩ ∧ Shares own o old := by
  cases flight with
  | failed returns =>
    rcases course_of_returns returns h now with ⟨course, rfl⟩
    exact ⟨course, h.world, h.acts⟩
  | sentLate returns closed => exact absurd (opened.symm.trans closed) Bool.noConfusion
  | abandoned under closed => exact absurd (opened.symm.trans closed) Bool.noConfusion
  | settled under opened answer =>
    have instant := congrArg Confirmation.Wait.Next.instant answer
    have course := course_of_verdict (q := q) under instant now timely
      (Confirmation.Wait.fire_settled (s := own) answer)
    exact ⟨course, h.world, h.acts⟩
  | gaveUp under opened limit =>
    have instant := congrArg Confirmation.Wait.Next.instant limit
    have course := course_of_verdict (q := q) under instant now timely
      (Confirmation.Wait.fire_giveUp (s := own) limit)
    exact ⟨course, h.world, h.acts⟩

-- A step that takes the worker down is where its course crashes.
theorem course_crash {text : String} (flight : Flight q s n i d o (.crash text))
    (h : Shares own s.outside old) (now : s.now ≤ i) (timely : s.stage.Timely) :
    (ofStage q s.now own s.stage).close = .crashed i text := by
  cases flight with
  | sendCrashed returns =>
    rw [(course_of_returns returns h now).1]
    rfl
  | unpaced returns opened unpaced =>
    rw [(course_of_returns returns h now).1]
    unfold ofOutcome Watch.begin
    dsimp only
    rw [dif_neg unpaced, Watch.runTo_of_over rfl]
    rfl
  | lookupCrashed under opened answer =>
    have instant := congrArg Confirmation.Wait.Next.instant answer
    rw [course_of_verdict (q := q) under instant now timely
      (Confirmation.Wait.fire_crash (s := own) answer)]
    rfl

end Flight

namespace Course

variable {q : Setup σ} {old acts : List (Nat × Act)} {d e limit : Nat} {c : Course σ}

/-- A course in the order of time: what it adds to the record `old` comes between
    the instant `d` and its end. -/
def Tidy (old : List (Nat × Act)) (d : Nat) (c : Course σ) : Prop :=
  ∃ e, d ≤ e ∧ Onward old d e c.acts ∧ ∀ i, c.close.instant? = some i → i = e

-- A course goes on from where something else ended.
theorem Tidy.after (t : Tidy acts e c) (o : Onward old d e acts) (le : d ≤ e) : Tidy old d c := by
  rcases t with ⟨last, later, onward, close⟩
  exact ⟨last, Nat.le_trans le later, o.trans onward le later, close⟩

-- What is in order from an instant on is in order from an earlier one.
theorem Tidy.earlier (t : Tidy old e c) (le : d ≤ e) : Tidy old d c :=
  t.after (Onward.refl old d e) le

-- A wait that nobody stops is over at its deadline, and was in order until then.
theorem tidy_ofWatch (lookup : Lookup σ) (tx : Submitted) {v : Watch σ}
    (runs : Watch.Runs old d limit v) : Tidy old d (ofWatch tx (v.runTo lookup limit)) := by
  have done : ∃ verdict, (v.runTo lookup limit).state = .inl verdict := Watch.runTo_over runs
  rcases done with ⟨verdict, ends⟩
  -- What holds on the way holds at the end, which is the end of the course.
  have after : Watch.Runs old d limit (v.runTo lookup limit) := Watch.runs_runTo runs
  have next := after.next
  rw [ends] at next
  refine ⟨(v.runTo lookup limit).now, next, after.onward, ?_⟩
  intro i close
  unfold ofWatch at close
  rw [ends] at close
  cases verdict <;> exact (Option.some.inj close).symm

-- What follows the end of a send operation is in order.
theorem tidy_ofOutcome (q : Setup σ) (i : Nat) (o : Surroundings σ) (outcome : Outcome Submitted) :
    Tidy o.acts i (ofOutcome q i o outcome) := by
  have still (close : Close) (at_ : close.instant? = some i) :
      Tidy o.acts i ⟨o.acts, o.world, close⟩ :=
    ⟨i, Nat.le_refl i, Onward.refl o.acts i i, fun j h => Option.some.inj (h.symm.trans at_)⟩
  cases outcome with
  | failure f => exact still _ rfl
  | crash text => exact still _ rfl
  | value tx =>
    by_cases paced : 0 < q.plan.interval
    · exact tidy_ofWatch q.lookup tx (Watch.begin_runs q.plan paced i tx o)
    · unfold ofOutcome Watch.begin
      dsimp only
      rw [dif_neg paced, Watch.runTo_of_over rfl]
      exact still (.crashed i Confirmation.zeroIntervalText) rfl

-- A broadcast and what follows it are in order.
theorem tidy_ofSolo (q : Setup σ) {b : Solo σ} (runs : Solo.Runs old d b) :
    Tidy old d (ofSolo q (b.finish q.broadcast)) := by
  rcases Solo.finish_over q.broadcast b with ⟨outcome, ends⟩
  have after : Solo.Runs old d (b.finish q.broadcast) := Solo.runs_finish runs
  have next := after.next
  rw [ends] at next
  unfold ofSolo
  rw [ends]
  exact (tidy_ofOutcome q _ _ outcome).after after.onward next

-- What is left of a course is in order.
theorem tidy_ofStage (q : Setup σ) {now : Nat} (own : Surroundings σ) {stage : Stage}
    (late : now ≤ d) (due : ∀ i, stage.due? = some i → d ≤ i) (timely : stage.Timely) :
    Tidy own.acts d (ofStage q now own stage) := by
  have nothing : Tidy own.acts d (⟨own.acts, own.world, .never⟩ : Course σ) :=
    ⟨d, Nat.le_refl d, Onward.refl own.acts d d, fun i h => absurd h (Option.some_ne_none i).symm⟩
  rcases stage with _ | _ | ⟨n, (⟨i, outcome⟩ | _) | run⟩ | ⟨n, began, wait⟩ | how
  · exact nothing
  · exact nothing
  · exact (tidy_ofOutcome q i own outcome).earlier (due i rfl)
  · exact nothing
  · have next := due run.due rfl
    refine tidy_ofSolo q ⟨Onward.refl own.acts d now, ?_⟩
    exact ⟨Nat.le_trans late next, next⟩
  · have next := due wait.due rfl
    refine tidy_ofWatch q.lookup wait.tx ⟨rfl, Onward.refl own.acts d now, ?_⟩
    exact ⟨Nat.le_trans late next, next, timely, rfl⟩
  · exact nothing

-- A course does not depend on the clock, as long as the next step is not overdue.
theorem ofStage_wait (q : Setup σ) {now later : Nat} (own : Surroundings σ) {stage : Stage}
    (soon : ∀ i, stage.due? = some i → now ≤ i) (still : ∀ i, stage.due? = some i → later ≤ i)
    (timely : stage.Timely) : ofStage q later own stage = ofStage q now own stage := by
  rcases stage with _ | _ | ⟨n, (⟨i, outcome⟩ | _) | run⟩ | ⟨n, began, wait⟩ | how
  · rfl
  · rfl
  · rfl
  · rfl
  · unfold ofStage
    dsimp only
    rw [Solo.finish_of_run (b := ⟨later, .inr run, own⟩) rfl,
      Solo.finish_of_run (b := ⟨now, .inr run, own⟩) rfl]
    dsimp only
    rw [Nat.max_eq_right (soon run.due rfl), Nat.max_eq_right (still run.due rfl)]
  · have due := wait.due_le_deadline timely
    unfold ofStage
    dsimp only
    rw [Watch.runTo_of_run (v := ⟨later, none, .inr wait, own⟩) rfl rfl due,
      Watch.runTo_of_run (v := ⟨now, none, .inr wait, own⟩) rfl rfl due]
    dsimp only
    rw [Nat.max_eq_right (soon wait.due rfl), Nat.max_eq_right (still wait.due rfl)]
  · rfl

/-- The course of a submission begins with its send operation, at the instant at
    which it is taken up, and is in the order of time. -/
theorem tidy_alone (q : Setup σ) (n : Nat) (send : Send) (start : Nat) (world : σ) :
    Tidy [(start, Act.send n)] start (alone q n send start world) := by
  have opened := Onward.refl [(start, Act.send n)] start start
  cases send with
  | direct reply =>
    cases reply with
    | after delay outcome =>
      have later := Nat.le_add_right start delay
      exact (tidy_ofOutcome q (start + delay) _ outcome).after (opened.wait later) later
    | never =>
      exact ⟨start, Nat.le_refl start, opened, fun i h => absurd h (Option.some_ne_none i).symm⟩
  | relay chain raw =>
    -- The first attempt is made at once, and decided no earlier.
    have next := Broadcast.Run.le_due_call q.broadcast start (q.policy.attempts - 1)
      ⟨chain, raw, q.policy, .pausing start 0⟩ ((Surroundings.fresh world).note start (.send n))
    refine tidy_ofSolo q ⟨?_, next, next⟩
    exact opened.act (Nat.le_refl start) (Nat.le_refl start) (.attempt chain raw)

end Course

end Queue

end TxRelay
