import TxRelay.Queue.Run

/-!
# The Register of a Queue

Where every submission is, read off the state: which tickets were accepted,
turned away, answered and sent, all of them the latest first, which ones the
queue has in hand and which ones wait in line. Proofs about what happens to
submissions speak of these lists, and each operation of the queue has one lemma
for each list that it changes.

## Main definitions

* `Queue.State.accepted`, `rejected`, `answered`, `sent`: What happened to
  submissions.
* `Queue.State.acceptances`: Which of them were accepted when.
* `Queue.State.inHand`, `Queue.State.inLine`: Where submissions are.

## Theorems

* `Queue.State.close_shape`: What a shutdown does at once.
* `Queue.State.leave_shape`, `Queue.State.drain_shape`: What is left when the
  worker goes away.
* `Queue.State.receive_frame`: What stays when the worker takes an entry.
-/

namespace TxRelay

namespace Queue

/-- The ticket that an event accepts. -/
def Event.accepted? : Event → Option Nat
  | .accepted n => some n
  | _ => none

/-- The ticket that an event turns away. -/
def Event.rejected? : Event → Option Nat
  | .rejected n => some n
  | _ => none

/-- The ticket that an event answers, heard or not. -/
def Event.answered? : Event → Option Nat
  | .answered n _ => some n
  | .unheard n _ => some n
  | _ => none

namespace State

variable {σ : Type}

/-- The tickets that were accepted. -/
def accepted (s : State σ) : List Nat :=
  s.events.filterMap fun e => e.2.accepted?

/-- The tickets that were accepted, each with its instant. -/
def acceptances (s : State σ) : List (Nat × Nat) :=
  s.events.filterMap fun e => e.2.accepted?.map fun n => (e.1, n)

theorem map_acceptances (s : State σ) : s.acceptances.map Prod.snd = s.accepted := by
  unfold acceptances accepted
  rw [List.map_filterMap]
  refine congrArg (fun f => s.events.filterMap f) (funext fun e => ?_)
  cases e.2.accepted? <;> rfl

/-- The tickets that were turned away. -/
def rejected (s : State σ) : List Nat :=
  s.events.filterMap fun e => e.2.rejected?

/-- The tickets that were answered. -/
def answered (s : State σ) : List Nat :=
  s.events.filterMap fun e => e.2.answered?

end State

end Queue

/-- The ticket whose send operation an act begins. -/
def Act.sent? : Act → Option Nat
  | .send n => some n
  | _ => none

namespace Surroundings

variable {σ : Type}

/-- The tickets whose send operations began. -/
def sent (s : Surroundings σ) : List Nat :=
  s.acts.filterMap fun a => a.2.sent?

@[simp]
theorem acts_measure (record : Metrics → Metrics) (s : Surroundings σ) :
    (s.measure record).acts = s.acts := rfl

@[simp]
theorem sent_measure (record : Metrics → Metrics) (s : Surroundings σ) :
    (s.measure record).sent = s.sent := rfl

@[simp]
theorem world_measure (record : Metrics → Metrics) (s : Surroundings σ) :
    (s.measure record).world = s.world := rfl

@[simp]
theorem acts_note (now : Nat) (act : Act) (s : Surroundings σ) :
    (s.note now act).acts = (now, act) :: s.acts := rfl

@[simp]
theorem world_note (now : Nat) (act : Act) (s : Surroundings σ) :
    (s.note now act).world = s.world := rfl

end Surroundings

namespace Queue

namespace State

variable {σ : Type}

/-- The tickets whose send operations began. -/
def sent (s : State σ) : List Nat :=
  s.outside.sent

/-- The tickets that were accepted and not answered, the oldest first. -/
def inHand (s : State σ) : List Nat :=
  s.stage.ticket?.toList ++ s.buffer.map Entry.ticket

/-- The tickets of the callers who wait for a place. -/
def inLine (s : State σ) : List Nat :=
  s.waiters.map Entry.ticket

/-- What the caller of a submission gets to know when it is answered. -/
def reply (n : Nat) (r : Response) (s : State σ) : Event :=
  if s.departed.contains n then .unheard n r else .answered n r

-- An answer is an answer, heard or not.
theorem answered?_reply (n : Nat) (r : Response) (s : State σ) :
    (s.reply n r).answered? = some n := by
  unfold reply
  split <;> rfl

-- An answer accepts nobody.
theorem accepted?_reply (n : Nat) (r : Response) (s : State σ) :
    (s.reply n r).accepted? = none := by
  unfold reply
  split <;> rfl

-- What accepts nobody leaves the acceptances as they are.
theorem acceptances_of_events {s t : State σ} {e : List (Nat × Event)}
    (events : t.events = e ++ s.events) (nobody : e.filterMap (fun x => x.2.accepted?) = []) :
    t.acceptances = s.acceptances := by
  unfold acceptances
  rw [events, List.filterMap_append, List.filterMap_eq_nil_iff.mpr fun x mem => ?_]
  · rfl
  · rw [List.filterMap_eq_nil_iff.mp nobody x mem]
    rfl

theorem acceptances_answer (n : Nat) (r : Response) (s : State σ) :
    (s.answer n r).acceptances = s.acceptances :=
  acceptances_of_events (e := [(s.now, s.reply n r)]) rfl
    (List.filterMap_cons_none (accepted?_reply n r s))

-- An answer turns nobody away.
theorem rejected?_reply (n : Nat) (r : Response) (s : State σ) :
    (s.reply n r).rejected? = none := by
  unfold reply
  split <;> rfl

/-- What is told when several submissions are answered alike. -/
def replies (r : Response) (tickets : List Nat) (s : State σ) : List (Nat × Event) :=
  (tickets.map fun n => (s.now, s.reply n r)).reverse

/-- What is told when several callers are turned away. -/
def refusals (tickets : List Nat) (s : State σ) : List (Nat × Event) :=
  (tickets.map fun n => (s.now, Event.rejected n)).reverse

section Told

variable (r : Response) (tickets : List Nat) (s : State σ)

@[simp]
theorem accepted?_refusals :
    ((s.refusals tickets).filterMap fun e => e.2.accepted?) = [] := by
  simp only [refusals, List.filterMap_reverse, List.filterMap_map, List.reverse_eq_nil_iff,
    List.filterMap_eq_nil_iff]
  exact fun _ _ => rfl

@[simp]
theorem rejected?_refusals :
    ((s.refusals tickets).filterMap fun e => e.2.rejected?) = tickets.reverse := by
  simp only [refusals, List.filterMap_reverse, List.filterMap_map]
  exact congrArg List.reverse (List.filterMap_some (l := tickets))

@[simp]
theorem answered?_refusals :
    ((s.refusals tickets).filterMap fun e => e.2.answered?) = [] := by
  simp only [refusals, List.filterMap_reverse, List.filterMap_map, List.reverse_eq_nil_iff,
    List.filterMap_eq_nil_iff]
  exact fun _ _ => rfl

@[simp]
theorem accepted?_replies :
    ((s.replies r tickets).filterMap fun e => e.2.accepted?) = [] := by
  simp only [replies, List.filterMap_reverse, List.filterMap_map, List.reverse_eq_nil_iff,
    List.filterMap_eq_nil_iff]
  exact fun n _ => accepted?_reply n r s

@[simp]
theorem rejected?_replies :
    ((s.replies r tickets).filterMap fun e => e.2.rejected?) = [] := by
  simp only [replies, List.filterMap_reverse, List.filterMap_map, List.reverse_eq_nil_iff,
    List.filterMap_eq_nil_iff]
  exact fun n _ => rejected?_reply n r s

@[simp]
theorem answered?_replies :
    ((s.replies r tickets).filterMap fun e => e.2.answered?) = tickets.reverse := by
  simp only [replies, List.filterMap_reverse, List.filterMap_map]
  refine congrArg List.reverse (Eq.trans ?_ (List.filterMap_some (l := tickets)))
  exact congrArg (fun f => tickets.filterMap f) (funext fun n => answered?_reply n r s)

end Told

-- Answering several submissions tells their callers.
theorem events_answerAll (r : Response) (tickets : List Nat) (s : State σ) :
    (s.answerAll r tickets).events = s.replies r tickets ++ s.events := by
  induction tickets generalizing s with
  | nil => rfl
  | cons n rest ih =>
    have h := ih (s.answer n r)
    simp only [answerAll, List.foldl_cons] at h ⊢
    rw [h]
    simp only [replies, List.map_cons, List.reverse_cons, List.append_assoc]
    rfl

/-- What a queue is without its worker, after these events. -/
def cleared (how : Ending) (events : List (Nat × Event)) (s : State σ) : State σ :=
  { s with
    lifecycle := .stopped, stage := .ended how, buffer := [], waiters := [], granted := 0
    events := events ++ s.events }

-- Those who wait are turned away, and nothing else changes but the metrics.
theorem releaseWaiters_shape (s : State σ) :
    ∃ m, s.releaseWaiters =
      { s with waiters := [], granted := 0, events := s.refusals s.inLine ++ s.events }.measure
        fun _ => m := by
  suffices release : ∀ (tickets : List Nat) (t : State σ),
      ∃ m, t.rejectAll tickets =
        { t with events := t.refusals tickets ++ t.events }.measure fun _ => m by
    exact release s.inLine { s with waiters := [], granted := 0 }
  intro tickets
  induction tickets with
  | nil => exact fun t => ⟨t.outside.metrics, rfl⟩
  | cons n rest ih =>
    intro t
    rcases ih (t.reject n) with ⟨m, h⟩
    refine ⟨m, h.trans ?_⟩
    simp only [refusals, List.map_cons, List.reverse_cons, List.append_assoc]
    rfl

/-- What a queue is right after a shutdown was asked for. -/
def shut (s : State σ) : State σ :=
  { s with
    lifecycle := .stopping, shutdown := true, waiters := [], granted := 0
    events := s.refusals s.inLine ++ s.events }

/-- A shutdown turns away everybody in line, and leaves the chains alone. -/
theorem close_shape (s : State σ) :
    ∃ m, { s with lifecycle := .stopping, shutdown := true }.releaseWaiters =
      s.shut.measure fun _ => m :=
  releaseWaiters_shape { s with lifecycle := .stopping, shutdown := true }

/-- A worker that goes away answers everything in hand, turns away everybody in
    line, and leaves the chains alone. -/
theorem leave_shape (how : Ending) (s : State σ) :
    ∃ m, s.leave how =
      (s.cleared how
        (s.refusals s.inLine ++ s.replies (.failed .missingResult) s.inHand)).measure
        fun _ => m := by
  have whole := answerAll_eq (.failed .missingResult) s.inHand s
  rw [events_answerAll] at whole
  unfold leave
  rw [show s.stage.ticket?.toList ++ s.buffer.map Entry.ticket = s.inHand from rfl, whole]
  dsimp only
  rcases releaseWaiters_shape { s with
    lifecycle := .stopped, stage := .ended how, buffer := []
    events := s.replies (.failed .missingResult) s.inHand ++ s.events } with ⟨m, h⟩
  rw [h]
  refine ⟨m.setQueueDepth 0, ?_⟩
  simp only [cleared, List.append_assoc]
  rfl

-- A worker that drains the buffer answers what is stored and goes away.
theorem drain_shape (s : State σ) (idle : s.stage.ticket? = none) :
    ∃ m, s.drain =
      (s.cleared .finished
        (s.refusals s.inLine ++ s.replies (.failed .queueClosed) (s.buffer.map Entry.ticket))).measure
        fun _ => m := by
  have whole := answerAll_eq (.failed .queueClosed) (s.buffer.map Entry.ticket) s
  rw [events_answerAll] at whole
  unfold drain
  rw [whole]
  dsimp only
  rcases leave_shape .finished ({ s with
      buffer := []
      events := s.replies (.failed .queueClosed) (s.buffer.map Entry.ticket) ++ s.events }.measure
    fun m => m.recordDrained s.buffer.length) with ⟨m, h⟩
  rw [h]
  refine ⟨m, ?_⟩
  simp only [cleared, measure, inHand, idle, replies, Option.toList_none, List.map_nil,
    List.append_nil, List.reverse_nil, List.append_assoc]
  rfl

/-- What the worker keeps when it takes an entry, and what it turns to. -/
theorem receive_frame (q : Setup σ) (e : Entry) (rest : List Entry) (s : State σ) :
    s.receive q e rest =
      { s with
        stage := (s.receive q e rest).stage
        buffer := rest
        granted := min (s.granted + 1) s.waiters.length
        outside := (s.receive q e rest).outside } ∧
      (s.receive q e rest).stage.ticket? = some e.ticket := by
  unfold receive
  cases e.send <;> exact ⟨rfl, rfl⟩

end State

end Queue

end TxRelay
