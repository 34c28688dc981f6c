import TxRelay.Queue.Worker

/-!
# The Queue on the Clock

A queue moves in steps. At an instant the worker goes first and takes as many
steps as it can. When it can go no further, the callers to whom it handed
places store their entries, and the worker goes on with those. Only when
neither is left does the clock move, straight to the worker's next step.

Each step leaves less to do up to any instant, so all runs end. What is left
is counted in this order: submissions, the stage of the worker, places handed
out, and the steps within the stage.

## Main definitions

* `Queue.State.step?`: The next thing that happens up to an instant.
* `Queue.State.settle`: Lets everything happen that can happen now.
* `Queue.State.advanceTo`, `Queue.State.runUntil`: Runs on the clock.

## Theorems

* `Queue.State.step?_falls`: Every step leaves less to do.
-/

namespace TxRelay

namespace Queue

/-- How far the worker is from going away, within one submission. -/
def Stage.rank : Stage → Nat
  | .ended _ => 0
  | .confirming .. => 1
  | .sending .. => 2
  | .idle => 3
  | .unstarted => 4

/-- What is left to do within a stage, up to an instant. -/
def Stage.backlog (limit : Nat) : Stage → Nat
  | .sending _ (.relay run) => run.backlog
  | .confirming _ _ wait => wait.backlog limit
  | _ => 0

/-- The submissions that the worker has not answered. -/
def State.unanswered {σ : Type} (s : State σ) : Nat :=
  s.buffer.length + s.waiters.length + s.stage.ticket?.toList.length

/-- What is left to do up to an instant. -/
def State.backlog {σ : Type} (limit : Nat) (s : State σ) : Nat × Nat × Nat × Nat :=
  (s.unanswered, s.stage.rank, s.granted, s.stage.backlog limit)

namespace State

variable {σ : Type}

/-- Nothing is left of what the worker had when it went away. -/
theorem leave_cleared (how : Ending) (s : State σ) :
    (s.leave how).unanswered = 0 ∧ (s.leave how).stage = .ended how := by
  unfold leave releaseWaiters
  dsimp only
  rw [rejectAll_eq]
  exact ⟨rfl, rfl⟩

/-- Fewer unanswered submissions are less to do. -/
theorem falls_of_unanswered {limit : Nat} {s t : State σ} (h : t.unanswered < s.unanswered) :
    WellFoundedRelation.rel (t.backlog limit) (s.backlog limit) :=
  Prod.Lex.left _ _ h

/-- With as many submissions, a later stage is less to do. -/
theorem falls_of_rank {limit : Nat} {s t : State σ} (same : t.unanswered = s.unanswered)
    (h : t.stage.rank < s.stage.rank) :
    WellFoundedRelation.rel (t.backlog limit) (s.backlog limit) := by
  unfold backlog
  rw [same]
  exact Prod.Lex.right _ (Prod.Lex.left _ _ h)

/-- At the same stage, fewer places handed out are less to do. -/
theorem falls_of_granted {limit : Nat} {s t : State σ} (same : t.unanswered = s.unanswered)
    (stage : t.stage = s.stage) (h : t.granted < s.granted) :
    WellFoundedRelation.rel (t.backlog limit) (s.backlog limit) := by
  unfold backlog
  rw [same, stage]
  exact Prod.Lex.right _ (Prod.Lex.right _ (Prod.Lex.left _ _ h))

/-- A step within a stage is less to do. -/
theorem falls_of_stage {limit : Nat} {s t : State σ} (same : t.unanswered = s.unanswered)
    (rank : t.stage.rank = s.stage.rank) (granted : t.granted = s.granted)
    (h : t.stage.backlog limit < s.stage.backlog limit) :
    WellFoundedRelation.rel (t.backlog limit) (s.backlog limit) := by
  unfold backlog
  rw [same, rank, granted]
  exact Prod.Lex.right _ (Prod.Lex.right _ (Prod.Lex.right _ h))

/-- A worker that goes away leaves less to do. -/
theorem falls_leave {limit : Nat} (how : Ending) {s : State σ} (alive : 0 < s.stage.rank) :
    WellFoundedRelation.rel ((s.leave how).backlog limit) (s.backlog limit) := by
  obtain ⟨cleared, stage⟩ := leave_cleared how s
  rcases Nat.eq_zero_or_pos s.unanswered with none | some
  · exact falls_of_rank (cleared.trans none.symm) (by rw [stage]; exact alive)
  · exact falls_of_unanswered (by rw [cleared]; exact some)

/-- Draining leaves less to do. -/
theorem falls_drain {limit : Nat} {s : State σ} (alive : 0 < s.stage.rank) :
    WellFoundedRelation.rel (s.drain.backlog limit) (s.backlog limit) := by
  unfold drain
  obtain ⟨cleared, stage⟩ := leave_cleared .finished
    ({ s.answerAll (.failed .queueClosed) (s.buffer.map Entry.ticket) with buffer := [] }.measure
      fun m => m.recordDrained s.buffer.length)
  rcases Nat.eq_zero_or_pos s.unanswered with none | some
  · exact falls_of_rank (cleared.trans none.symm) (by rw [stage]; exact alive)
  · exact falls_of_unanswered (by rw [cleared]; exact some)

/-- Answering the submission in flight leaves less to do. -/
theorem falls_answer {limit ticket : Nat} {s t : State σ} (flight : s.stage.ticket? = some ticket)
    (idle : t.stage = .idle) (buffer : t.buffer = s.buffer) (waiters : t.waiters = s.waiters) :
    WellFoundedRelation.rel (t.backlog limit) (s.backlog limit) := by
  apply falls_of_unanswered
  unfold unanswered
  rw [idle, buffer, waiters, flight]
  simp only [Stage.ticket?, Option.toList_none, Option.toList_some, List.length_nil,
    List.length_cons]
  omega

/-- The end of a send operation leaves less to do. -/
theorem falls_concludeSend (q : Setup σ) {limit ticket : Nat} {sending : Sending}
    (outcome : Outcome Submitted) {s t : State σ} (stage : s.stage = .sending ticket sending)
    (same : t.stage = s.stage) (buffer : t.buffer = s.buffer) (waiters : t.waiters = s.waiters) :
    WellFoundedRelation.rel ((t.concludeSend q ticket outcome).backlog limit)
      (s.backlog limit) := by
  have flight : s.stage.ticket? = some ticket := by rw [stage]; rfl
  have amount : t.unanswered = s.unanswered := by unfold unanswered; rw [same, buffer, waiters]
  have rank : s.stage.rank = 2 := by rw [stage]; rfl
  -- A worker that goes away is compared through the state it goes away from.
  have gone (how : Ending) :
      WellFoundedRelation.rel ((t.leave how).backlog limit) (s.backlog limit) := by
    obtain ⟨cleared, ended⟩ := leave_cleared how t
    rcases Nat.eq_zero_or_pos s.unanswered with none | some
    · exact falls_of_rank (cleared.trans none.symm) (by rw [ended, rank]; exact Nat.succ_pos 1)
    · exact falls_of_unanswered (by rw [cleared]; exact some)
  cases outcome with
  | value tx =>
    simp only [concludeSend]
    split
    · exact falls_answer flight rfl buffer waiters
    · split
      · apply falls_of_rank
        · rw [← amount]
          unfold unanswered
          rw [same, stage]
          rfl
        · rw [rank]
          exact Nat.lt_succ_self 1
      · exact gone _
  | failure f => exact falls_answer flight rfl buffer waiters
  | crash text => exact gone _

/-- The end of a wait leaves less to do. -/
theorem falls_concludeWait {limit ticket began : Nat} {wait : Confirmation.Wait}
    (tx : Submitted) (v : Confirmation.Verdict) {s t : State σ}
    (stage : s.stage = .confirming ticket began wait)
    (buffer : t.buffer = s.buffer) (waiters : t.waiters = s.waiters) :
    WellFoundedRelation.rel ((t.concludeWait ticket began tx v).backlog limit)
      (s.backlog limit) := by
  have flight : s.stage.ticket? = some ticket := by rw [stage]; rfl
  cases v with
  | settled => exact falls_answer flight rfl buffer waiters
  | missing => exact falls_answer flight rfl buffer waiters
  | crashed text =>
    obtain ⟨cleared, ended⟩ := leave_cleared (.crashed text) t
    apply falls_of_unanswered
    simp only [concludeWait, cleared]
    unfold unanswered
    rw [flight]
    simp only [Option.toList_some, List.length_cons, List.length_nil]
    omega

/-- Taking an entry leaves less to do. -/
theorem falls_receive (q : Setup σ) {limit : Nat} {e : Entry} {rest : List Entry} {s : State σ}
    (stage : s.stage = .idle) (buffer : s.buffer = e :: rest) :
    WellFoundedRelation.rel ((s.receive q e rest).backlog limit) (s.backlog limit) := by
  have amount : s.unanswered = rest.length + 1 + s.waiters.length := by
    unfold unanswered
    rw [stage, buffer]
    rfl
  have rank : s.stage.rank = 3 := by rw [stage]; rfl
  unfold receive
  split
  · apply falls_of_rank
    · rw [amount]
      simp only [unanswered, Stage.ticket?, Option.toList_some, List.length_cons, List.length_nil]
      omega
    · rw [rank]
      exact Nat.lt_succ_self 2
  · apply falls_of_rank
    · rw [amount]
      simp only [unanswered, Stage.ticket?, Option.toList_some, List.length_cons, List.length_nil]
      omega
    · rw [rank]
      exact Nat.lt_succ_self 2

/-- Every step of the worker leaves less to do. -/
theorem work?_falls (q : Setup σ) {limit soon : Nat} (h : soon ≤ limit) {s t : State σ}
    (step : s.work? q soon = some t) :
    WellFoundedRelation.rel (t.backlog limit) (s.backlog limit) := by
  unfold work? at step
  split at step
  · exact absurd step (by simp only [reduceCtorEq, not_false_eq_true])
  · exact absurd step (by simp only [reduceCtorEq, not_false_eq_true])
  · -- The worker is idle.
    rename_i stage
    have alive : 0 < s.stage.rank := by rw [stage]; exact Nat.succ_pos 2
    split at step
    · rw [← Option.some.inj step]
      exact falls_drain alive
    · split at step
      · rename_i e rest buffer
        rw [← Option.some.inj step]
        exact falls_receive q stage buffer
      · split at step
        · rw [← Option.some.inj step]
          exact falls_leave .finished alive
        · exact absurd step (by simp only [reduceCtorEq, not_false_eq_true])
  · -- The caller's own operation is under way.
    rename_i ticket answer stage
    split at step
    · exact absurd step (by simp only [reduceCtorEq, not_false_eq_true])
    · split at step
      · rw [← Option.some.inj step]
        exact falls_concludeSend q _ stage rfl rfl rfl
      · exact absurd step (by simp only [reduceCtorEq, not_false_eq_true])
  · -- A broadcast is under way.
    rename_i ticket run stage
    split at step
    · dsimp only at step
      split at step
      · rw [← Option.some.inj step]
        exact falls_concludeSend q _ stage rfl rfl rfl
      · rename_i next fired
        rw [← Option.some.inj step]
        apply falls_of_stage
        · simp only [unanswered, stage]
          rfl
        · rw [stage]
          rfl
        · rfl
        · rw [stage]
          exact Broadcast.Run.backlog_fire q.broadcast fired
    · exact absurd step (by simp only [reduceCtorEq, not_false_eq_true])
  · -- A confirmation is waited for.
    rename_i ticket began wait stage
    split at step
    · rw [← Option.some.inj step]
      have flight : s.stage.ticket? = some ticket := by rw [stage]; rfl
      exact falls_answer flight rfl rfl rfl
    · split at step
      · rename_i due
        dsimp only at step
        split at step
        · rw [← Option.some.inj step]
          exact falls_concludeWait _ _ stage rfl rfl
        · rename_i next fired
          rw [← Option.some.inj step]
          apply falls_of_stage
          · simp only [unanswered, stage]
            rfl
          · rw [stage]
            rfl
          · rfl
          · rw [stage]
            exact Confirmation.Wait.backlog_fire q.lookup limit wait next s.outside
              (Nat.le_trans due h) fired
      · exact absurd step (by simp only [reduceCtorEq, not_false_eq_true])

/-- Storing the entries of those who were handed places leaves less to do. -/
theorem falls_storeGranted {limit : Nat} {s : State σ} (some : 0 < s.granted) :
    WellFoundedRelation.rel (s.storeGranted.backlog limit) (s.backlog limit) := by
  unfold storeGranted
  rw [storeFrom_eq]
  apply falls_of_granted
  · simp only [unanswered, List.length_append, List.length_take, List.length_drop]
    omega
  · rfl
  · exact some

/-- The next thing that happens not later than an instant, if anything does:
    the worker's step now, then the entries of those who were handed places,
    then the worker's next step. -/
def step? (q : Setup σ) (limit : Nat) (s : State σ) : Option (State σ) :=
  -- Only what is due by now; the clock has not moved yet.
  match s.work? q (min limit s.now) with
  | some t => some t
  | none => if 0 < s.granted then some s.storeGranted else s.work? q limit

/-- Every step leaves less to do. -/
theorem step?_falls (q : Setup σ) (limit : Nat) (s t : State σ) (h : s.step? q limit = some t) :
    WellFoundedRelation.rel (t.backlog limit) (s.backlog limit) := by
  unfold step? at h
  split at h
  · rename_i u hu
    rw [← Option.some.inj h]
    exact work?_falls q (Nat.min_le_left limit s.now) hu
  · split at h
    · rename_i granted
      rw [← Option.some.inj h]
      exact falls_storeGranted granted
    · exact work?_falls q (Nat.le_refl limit) h

/-- Runs until nothing is left to do up to an instant. -/
def runTo (q : Setup σ) (limit : Nat) (s : State σ) : State σ :=
  iterate (step? q limit) (backlog limit) (step?_falls q limit) s

/-- Lets everything happen that can happen now. -/
def settle (q : Setup σ) (s : State σ) : State σ :=
  s.runTo q s.now

/-- Runs up to an instant and moves the clock there. -/
def advanceTo (q : Setup σ) (limit : Nat) (s : State σ) : State σ :=
  (s.runTo q limit).moveTo limit

/-- The next step up to an instant, unless something holds already. -/
def stepUnless? (q : Setup σ) (done : State σ → Bool) (limit : Nat) (s : State σ) :
    Option (State σ) :=
  if done s then none else s.step? q limit

/-- Every step leaves less to do. -/
theorem stepUnless?_falls (q : Setup σ) (done : State σ → Bool) (limit : Nat) (s t : State σ)
    (h : s.stepUnless? q done limit = some t) :
    WellFoundedRelation.rel (t.backlog limit) (s.backlog limit) := by
  unfold stepUnless? at h
  split at h
  · exact absurd h (by simp only [reduceCtorEq, not_false_eq_true])
  · exact step?_falls q limit s t h

/-- Runs until something holds, and on to the end of that instant, or up to
    the given instant if it does not come to hold before. -/
def runUntil (q : Setup σ) (done : State σ → Bool) (limit : Nat) (s : State σ) : State σ :=
  let t := iterate (stepUnless? q done limit) (backlog limit) (stepUnless?_falls q done limit) s
  if done t then t.settle q else t.moveTo limit

/-- Starts the worker. -/
def start (s : State σ) : State σ :=
  match s.stage with
  | .unstarted => { s with stage := .idle }
  | _ => s

/-- Takes the worker away from outside. -/
def abort (how : Ending) (s : State σ) : State σ :=
  match s.stage with
  | .ended _ => s
  | _ => s.leave how

end State

end Queue

end TxRelay
