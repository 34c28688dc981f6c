import TxRelay.Proofs.Queue.Places

/-!
# Outlooks

Two runs of a queue can be the same for everybody who takes part in both, although
one has a caller more than the other. Then they differ in who is in line, in the
numbers of the callers who asked later, and in whether a caller who left is said to
have heard its answer.

An outlook leaves callers out, numbers the others anew, and does not tell whether
some of them hear their answers. A state shows another under an outlook if that is
all the difference. Whatever the worker does next, it does in both, and they show each
other again, as long as nobody who is left out is handed a place or turned away. What
callers do is in `Queue.Bystanders`.

## Main definitions

* `Queue.Outlook`: Whom to leave out, and whose hearing is not told.
* `Queue.State.image`: A state under an outlook.
* `Queue.Shows`: A state shows another.
* `Queue.Keeping`, `Queue.Fair`: Nobody who is left out is in the way.

## Theorems

* `Queue.Outlook.ticket_inj`: Nobody gets the number of another.
* `Queue.Shows.concludeSend`, `Queue.Shows.concludeWait`: Whatever becomes of the
  submission in flight becomes of it in both.
* `Queue.Shows.work?`: The worker does the same in both.
* `Queue.Shows.step?`: The same happens next in both.
-/

namespace TxRelay

variable {σ : Type}

/-- An act, with its ticket renumbered. -/
def Act.rename (f : Nat → Nat) : Act → Act
  | .send n => .send (f n)
  | a => a

/-- Surroundings, with the tickets of all acts renumbered. -/
def Surroundings.rename (f : Nat → Nat) (o : Surroundings σ) : Surroundings σ :=
  { o with acts := o.acts.map fun a => (a.1, a.2.rename f) }

@[simp]
theorem Act.rename_id (a : Act) : a.rename id = a := by
  cases a <;> rfl

@[simp]
theorem Surroundings.rename_id (o : Surroundings σ) : o.rename id = o := by
  unfold rename
  simp only [Act.rename_id, List.map_id']

-- A broadcast does not know tickets.
theorem Broadcast.Run.fire_rename (send : Broadcaster σ) (r : Run) (f : Nat → Nat)
    (o : Surroundings σ) :
    r.fire send (o.rename f) = ((r.fire send o).1, (r.fire send o).2.rename f) := by
  unfold fire
  rcases r.phase with ⟨⟨i, hash | g | text⟩ | _, deadline, left⟩ | ⟨resume, left⟩
  · dsimp only
    split <;> rfl
  · dsimp only
    split <;> rfl
  · dsimp only
    split <;> rfl
  · rfl
  · rfl

-- A wait does not know tickets.
theorem Confirmation.Wait.fire_rename (lookup : Lookup σ) (w : Wait) (f : Nat → Nat)
    (o : Surroundings σ) :
    w.fire lookup (o.rename f) = ((w.fire lookup o).1, (w.fire lookup o).2.rename f) := by
  rcases next : w.next with i | ⟨i, (_ | _) | g | text⟩ | i
  · rw [fire_tick next, fire_tick next]
    rfl
  · rw [fire_settled next, fire_settled next]
  · rw [fire_pending next, fire_pending next]
  · rw [fire_failure next, fire_failure next]
    rfl
  · rw [fire_crash next, fire_crash next]
  · rw [fire_giveUp next, fire_giveUp next]

namespace Queue

/-- An entry, renumbered. -/
def Entry.rename (f : Nat → Nat) (e : Entry) : Entry :=
  ⟨f e.ticket, e.send⟩

/-- A stage of the worker, with the submission in flight renumbered. -/
def Stage.rename (f : Nat → Nat) : Stage → Stage
  | .sending n operation => .sending (f n) operation
  | .confirming n began wait => .confirming (f n) began wait
  | stage => stage

/-- An event, renumbered. -/
def Event.rename (f : Nat → Nat) : Event → Event
  | .accepted n => .accepted (f n)
  | .rejected n => .rejected (f n)
  | .answered n r => .answered (f n) r
  | .unheard n r => .unheard (f n) r

@[simp]
theorem Entry.map_rename_id (entries : List Entry) : entries.map (Entry.rename id) = entries :=
  List.map_id entries

@[simp]
theorem Stage.rename_id (stage : Stage) : stage.rename id = stage := by
  cases stage <;> rfl

@[simp]
theorem Event.rename_id (e : Event) : e.rename id = e := by
  cases e <;> rfl

/-- Whom to leave out of a run, and whose answers may be heard or not. -/
structure Outlook where
  /-- Who is not left out. -/
  keeps : Nat → Bool
  /-- By its new number, whose hearing is not told. -/
  deaf : Nat → Bool

namespace Outlook

variable (v : Outlook)

/-- The new number of a caller: as many as are not left out asked before. -/
def ticket (k : Nat) : Nat :=
  (List.range k).countP v.keeps

/-- What is told of an event: not whether the deaf hear. -/
def heard : Nat × Event → Nat × Event
  | (i, .answered n r) => (i, if v.deaf n then .unheard n r else .answered n r)
  | x => x

-- Whoever is left out takes no number.
theorem ticket_succ (k : Nat) :
    v.ticket (k + 1) = v.ticket k + if v.keeps k = true then 1 else 0 := by
  unfold ticket
  rw [List.range_succ, List.countP_append, List.countP_singleton]

theorem ticket_mono {a b : Nat} (le : a ≤ b) : v.ticket a ≤ v.ticket b :=
  (List.range_sublist.mpr le).countP_le

/-- Nobody gets the number of another. -/
theorem ticket_inj {a b : Nat} (keeps : v.keeps a = true) (keeps' : v.keeps b = true)
    (same : v.ticket a = v.ticket b) : a = b := by
  have apart {a b : Nat} (keeps : v.keeps a = true) (less : a < b) : v.ticket a < v.ticket b := by
    have next := v.ticket_mono less
    rw [Nat.succ_eq_add_one, v.ticket_succ, if_pos keeps] at next
    exact next
  rcases Nat.lt_trichotomy a b with less | equal | more
  · exact absurd same (Nat.ne_of_lt (apart keeps less))
  · exact equal
  · exact absurd same.symm (Nat.ne_of_lt (apart keeps' more))

end Outlook

/-- A state under an outlook, with these departures and events. -/
def State.image (v : Outlook) (d : List Nat) (e : List (Nat × Event)) (s : State σ) : State σ :=
  { s with
    asked := v.ticket s.asked
    stage := s.stage.rename v.ticket
    buffer := s.buffer.map (Entry.rename v.ticket)
    waiters := (s.waiters.filter fun e => v.keeps e.ticket).map (Entry.rename v.ticket)
    departed := d
    events := e
    outside := s.outside.rename v.ticket }

/-- A state shows another under an outlook. The same callers left, and the same was
    told at the same times, but for the deaf; all else is the image. -/
inductive Shows (v : Outlook) (s : State σ) : State σ → Prop where
  /-- The other state is an image. -/
  | of_image (d : List Nat) (e : List (Nat × Event))
      (heard : e.map v.heard = s.events.map fun x => v.heard (x.1, x.2.rename v.ticket))
      (left : ∀ k, v.keeps k = true → v.deaf (v.ticket k) = false →
        (v.ticket k ∈ d ↔ k ∈ s.departed)) :
      Shows v s (s.image v d e)

/-- Nobody who is left out asks, is turned away or is handed a place on the way from one
    state to another. -/
structure Fair (v : Outlook) (s t : State σ) : Prop where
  /-- If somebody asks, it is nobody who is left out. -/
  asks : s.asked < t.asked → v.keeps s.asked = true
  /-- If the worker goes away or the queue is closed, nobody who is left out is in
      line. -/
  line : t.waiters = [] → ∀ e ∈ s.waiters, v.keeps e.ticket = true
  /-- Nobody who is left out is handed a place. -/
  handed : ∀ e ∈ t.waiters.take t.granted, v.keeps e.ticket = true

/-- Nobody who is left out is anywhere but in line, and none of them was handed a
    place. -/
structure Keeping (v : Outlook) (s : State σ) : Prop where
  /-- Nobody who is left out has a submission in hand. -/
  hand : ∀ k ∈ s.inHand, v.keeps k = true
  /-- Nobody who is left out was handed a place. -/
  handed : ∀ e ∈ s.waiters.take s.granted, v.keeps e.ticket = true

section Counting

variable {v : Outlook} {line : List Entry}

-- A line in which nobody is left out.
theorem filter_keeps (all : ∀ e ∈ line, v.keeps e.ticket = true) :
    (line.filter fun e => v.keeps e.ticket) = line :=
  List.filter_eq_self.mpr all

-- As many are handed a place as if those who are left out were not there.
theorem min_keeps {g : Nat} (handed : ∀ e ∈ line.take (min g line.length),
    v.keeps e.ticket = true) :
    min g (line.filter fun e => v.keeps e.ticket).length = min g line.length := by
  have fewer := List.length_filter_le (fun e : Entry => v.keeps e.ticket) line
  have among := ((List.take_sublist (min g line.length) line).filter
    fun e => v.keeps e.ticket).length_le
  rw [filter_keeps handed, List.length_take] at among
  omega

-- The tickets of those who are in line.
theorem tickets_rename (entries : List Entry) (f : Nat → Nat) :
    (entries.map (Entry.rename f)).map Entry.ticket = (entries.map Entry.ticket).map f := by
  rw [List.map_map, List.map_map]
  rfl

end Counting

namespace Shows

variable {v : Outlook} {q : Setup σ} {s t : State σ}

section Fields

-- What one state shows of the other, field by field.

theorem now (h : Shows v s t) : t.now = s.now := by cases h; rfl

theorem asked (h : Shows v s t) : t.asked = v.ticket s.asked := by cases h; rfl

theorem lifecycle (h : Shows v s t) : t.lifecycle = s.lifecycle := by cases h; rfl

theorem shutdown (h : Shows v s t) : t.shutdown = s.shutdown := by cases h; rfl

theorem held (h : Shows v s t) : t.held = s.held := by cases h; rfl

theorem stage (h : Shows v s t) : t.stage = s.stage.rename v.ticket := by cases h; rfl

theorem buffer (h : Shows v s t) : t.buffer = s.buffer.map (Entry.rename v.ticket) := by
  cases h; rfl

theorem waiters (h : Shows v s t) :
    t.waiters = (s.waiters.filter fun e => v.keeps e.ticket).map (Entry.rename v.ticket) := by
  cases h; rfl

theorem granted (h : Shows v s t) : t.granted = s.granted := by cases h; rfl

theorem outside (h : Shows v s t) : t.outside = s.outside.rename v.ticket := by cases h; rfl

end Fields

theorem measure (record : Metrics → Metrics) (h : Shows v s t) :
    Shows v (s.measure record) (t.measure record) := by
  rcases h with ⟨d, e, heard, left⟩
  exact .of_image (s := s.measure record) d e heard left

theorem withStage (stage : Stage) (h : Shows v s t) :
    Shows v { s with stage := stage } { t with stage := stage.rename v.ticket } := by
  rcases h with ⟨d, e, heard, left⟩
  exact .of_image (s := { s with stage := stage }) d e heard left

theorem moveTo (i : Nat) (h : Shows v s t) : Shows v (s.moveTo i) (t.moveTo i) := by
  rcases h with ⟨d, e, heard, left⟩
  exact .of_image (s := s.moveTo i) d e heard left

theorem after (i : Nat) (o : Surroundings σ) (h : Shows v s t) :
    Shows v { s.moveTo i with outside := o } { t.moveTo i with outside := o.rename v.ticket } := by
  rcases h with ⟨d, e, heard, left⟩
  exact .of_image (s := { s.moveTo i with outside := o }) d e heard left

-- Callers are told that they were accepted or turned away under their new numbers.
theorem tell (x : Event) (h : Shows v s t) :
    Shows v (s.tell x) (t.tell (x.rename v.ticket)) := by
  rcases h with ⟨d, e, heard, left⟩
  refine .of_image (s := s.tell x) d ((s.now, x.rename v.ticket) :: e) ?_ left
  exact congrArg (v.heard (s.now, x.rename v.ticket) :: ·) heard

theorem reject (k : Nat) (h : Shows v s t) : Shows v (s.reject k) (t.reject (v.ticket k)) :=
  (h.tell (.rejected k)).measure Metrics.recordRejected

theorem rejectAll (ks : List Nat) (h : Shows v s t) :
    Shows v (s.rejectAll ks) (t.rejectAll (ks.map v.ticket)) := by
  induction ks generalizing s t with
  | nil => exact h
  | cons k rest ih => exact ih (h.reject k)

-- An answer is heard in both or in neither, unless its caller is deaf.
theorem answer {k : Nat} (r : Response) (keeps : v.keeps k = true) (h : Shows v s t) :
    Shows v (s.answer k r) (t.answer (v.ticket k) r) := by
  rcases h with ⟨d, e, heard, left⟩
  refine .of_image (s := s.answer k r) d
    ((s.now, if d.contains (v.ticket k) then .unheard (v.ticket k) r
      else .answered (v.ticket k) r) :: e) ?_ left
  have same : v.heard (s.now, if d.contains (v.ticket k) then .unheard (v.ticket k) r
      else .answered (v.ticket k) r) = v.heard (s.now, (s.reply k r).rename v.ticket) := by
    unfold State.reply
    cases deaf : v.deaf (v.ticket k) with
    | true =>
      have unheard (b : Bool) (i : Nat) : v.heard (i, if b = true then .unheard (v.ticket k) r
          else .answered (v.ticket k) r) = (i, .unheard (v.ticket k) r) := by
        cases b with
        | true => rfl
        | false => exact congrArg (i, ·) (if_pos deaf)
      rw [unheard, apply_ite (Event.rename v.ticket)]
      exact (unheard _ _).symm
    | false =>
      have alike : d.contains (v.ticket k) = s.departed.contains k := by
        rw [Bool.eq_iff_iff, List.contains_iff_mem, List.contains_iff_mem]
        exact left k keeps deaf
      rw [alike, apply_ite (Event.rename v.ticket)]
      rfl
  show _ :: e.map v.heard = _ :: _
  rw [same, heard]
  rfl

theorem answerAll (r : Response) {ks : List Nat} (keeps : ∀ k ∈ ks, v.keeps k = true)
    (h : Shows v s t) : Shows v (s.answerAll r ks) (t.answerAll r (ks.map v.ticket)) := by
  induction ks generalizing s t with
  | nil => exact h
  | cons k rest ih =>
    exact ih (fun m mem => keeps m (List.mem_cons_of_mem k mem))
      (h.answer r (keeps k List.mem_cons_self))

-- An entry is stored, and the same depth is shown.
theorem store (x : Entry) (h : Shows v s t) :
    Shows v (s.store x) (t.store (x.rename v.ticket)) := by
  have stored : Shows v { s with buffer := s.buffer ++ [x] }
      { t with buffer := t.buffer ++ [x.rename v.ticket] } := by
    rcases h with ⟨d, e, heard, left⟩
    have image := of_image (s := { s with buffer := s.buffer ++ [x] }) d e heard left
    unfold State.image at image ⊢
    rw [List.map_append] at image
    exact image
  have depth : ({ t with buffer := t.buffer ++ [x.rename v.ticket] }.tell
      (.accepted (v.ticket x.ticket))).depth =
      ({ s with buffer := s.buffer ++ [x] }.tell (.accepted x.ticket)).depth := by
    show (t.buffer ++ [_]).length + t.granted = (s.buffer ++ [x]).length + s.granted
    rw [h.buffer, h.granted, List.length_append, List.length_append, List.length_map]
    rfl
  have told := stored.tell (.accepted x.ticket)
  unfold State.store
  dsimp only [Entry.rename] at depth ⊢
  rw [depth]
  exact told.measure _

-- Everybody in line is turned away, if nobody is left out.
theorem releaseWaiters (all : ∀ e ∈ s.waiters, v.keeps e.ticket = true) (h : Shows v s t) :
    Shows v s.releaseWaiters t.releaseWaiters := by
  have emptied : Shows v { s with waiters := [], granted := 0 }
      { t with waiters := [], granted := 0 } := by
    rcases h with ⟨d, e, heard, left⟩
    exact .of_image (s := { s with waiters := [], granted := 0 }) d e heard left
  have line : t.waiters.map Entry.ticket = (s.waiters.map Entry.ticket).map v.ticket := by
    rw [h.waiters, filter_keeps all, tickets_rename]
  unfold State.releaseWaiters
  rw [line]
  exact emptied.rejectAll _

-- What is in hand.
theorem inHand (h : Shows v s t) : t.inHand = s.inHand.map v.ticket := by
  unfold State.inHand
  rw [h.stage, h.buffer, tickets_rename, List.map_append]
  refine congrArg (· ++ _) ?_
  cases s.stage <;> rfl

-- What is stored.
theorem stored (h : Shows v s t) :
    t.buffer.map Entry.ticket = (s.buffer.map Entry.ticket).map v.ticket := by
  rw [h.buffer, tickets_rename]

-- The worker goes away.
theorem leave (how : Ending) (hand : ∀ k ∈ s.inHand, v.keeps k = true)
    (all : ∀ e ∈ s.waiters, v.keeps e.ticket = true) (h : Shows v s t) :
    Shows v (s.leave how) (t.leave how) := by
  have told := h.answerAll (.failed .missingResult) hand
  rw [← h.inHand] at told
  have line : ∀ e ∈ (s.answerAll (.failed .missingResult) s.inHand).waiters,
      v.keeps e.ticket = true := by
    rw [State.answerAll_eq]
    exact all
  have gone {u w : State σ} (shows : Shows v u w) :
      Shows v { u with lifecycle := .stopped, stage := .ended how, buffer := [] }
        { w with lifecycle := .stopped, stage := .ended how, buffer := [] } := by
    rcases shows with ⟨d, e, heard, left⟩
    exact .of_image (s := { u with lifecycle := .stopped, stage := .ended how, buffer := [] })
      d e heard left
  refine (releaseWaiters ?_ (gone told)).measure _
  exact line

-- The worker drains what is stored, and goes away.
theorem drain (stage : s.stage = .idle) (hand : ∀ k ∈ s.inHand, v.keeps k = true)
    (all : ∀ e ∈ s.waiters, v.keeps e.ticket = true) (h : Shows v s t) :
    Shows v s.drain t.drain := by
  have stored : ∀ k ∈ s.buffer.map Entry.ticket, v.keeps k = true :=
    fun k mem => hand k (List.mem_append_right _ mem)
  have told := h.answerAll (.failed .queueClosed) stored
  rw [← h.stored] at told
  have length : t.buffer.length = s.buffer.length := by
    rw [h.buffer, List.length_map]
  have emptied {u w : State σ} (shows : Shows v u w) :
      Shows v { u with buffer := [] } { w with buffer := [] } := by
    rcases shows with ⟨d, e, heard, left⟩
    exact .of_image (s := { u with buffer := [] }) d e heard left
  unfold State.drain
  dsimp only
  rw [length]
  have whole := s.answerAll_eq (.failed .queueClosed) (s.buffer.map Entry.ticket)
  refine ((emptied told).measure _).leave .finished ?_ ?_
  · rw [whole]
    show ∀ k ∈ s.stage.ticket?.toList ++ [], v.keeps k = true
    rw [stage]
    exact fun k mem => absurd mem List.not_mem_nil
  · rw [whole]
    exact all

-- The worker takes an entry, and the place that it frees is handed to the same
-- caller.
theorem image_receive {x : Entry} {rest : List Entry} (d : List Nat) (e : List (Nat × Event))
    (handed : ∀ e ∈ s.waiters.take (min (s.granted + 1) s.waiters.length),
      v.keeps e.ticket = true) :
    (s.image v d e).receive q (x.rename v.ticket) (rest.map (Entry.rename v.ticket)) =
      (s.receive q x rest).image v d e := by
  have length : (rest.map (Entry.rename v.ticket)).length = rest.length := List.length_map _
  have places : min ((s.image v d e).granted + 1) (s.image v d e).waiters.length =
      min (s.granted + 1) s.waiters.length := by
    show min (s.granted + 1) ((s.waiters.filter fun e => v.keeps e.ticket).map
      (Entry.rename v.ticket)).length = _
    rw [List.length_map, min_keeps handed]
  unfold State.receive
  rw [length, places]
  -- What is shown is the same, and is not to be looked at.
  generalize (fun m : Metrics => m.setQueueDepth rest.length) = record
  rcases x with ⟨n, reply | ⟨chain, raw⟩⟩
  · rfl
  · rfl

theorem receive {x : Entry} {rest : List Entry}
    (handed : ∀ e ∈ s.waiters.take (min (s.granted + 1) s.waiters.length),
      v.keeps e.ticket = true) (h : Shows v s t) :
    Shows v (s.receive q x rest)
      (t.receive q (x.rename v.ticket) (rest.map (Entry.rename v.ticket))) := by
  rcases h with ⟨d, e, heard, left⟩
  rw [image_receive d e handed]
  have frame := (s.receive_frame q x rest).1
  refine .of_image d e ?_ ?_
  · rw [frame]
    exact heard
  · rw [frame]
    exact left

theorem confirm {k : Nat} (began : Nat) (tx : Submitted) (keeps : v.keeps k = true)
    (h : Shows v s t) : Shows v (s.confirm k began tx) (t.confirm (v.ticket k) began tx) := by
  have done := ((h.withStage .idle).measure fun m =>
    m.recordConfirmed tx.chain (.ofMillis (s.now - began))).answer (.submitted tx) keeps
  unfold State.confirm
  rw [h.now] at done ⊢
  exact done

-- A send operation ends.
theorem concludeSend {k : Nat} {outcome : Outcome Submitted} (keeps : v.keeps k = true)
    (hand : ∀ k ∈ s.inHand, v.keeps k = true)
    (fair : Fair v s (s.concludeSend q k outcome)) (h : Shows v s t) :
    Shows v (s.concludeSend q k outcome) (t.concludeSend q (v.ticket k) outcome) := by
  -- A worker that goes away leaves nobody in line.
  have gone {how : Ending} (ends : s.concludeSend q k outcome = s.leave how) :
      ∀ e ∈ s.waiters, v.keeps e.ticket = true := by
    refine fair.line ?_
    rcases s.leave_shape how with ⟨m, shape⟩
    rw [ends, shape]
    rfl
  cases outcome with
  | value tx =>
    unfold State.concludeSend at gone ⊢
    dsimp only at gone ⊢
    rw [h.shutdown, h.now]
    by_cases closed : s.shutdown = true
    · rw [if_pos closed, if_pos closed]
      exact h.confirm s.now tx keeps
    · rw [if_neg closed] at gone ⊢
      rw [if_neg closed]
      by_cases paced : 0 < q.plan.interval
      · have done := h.withStage (.confirming k s.now (.begin q.plan paced s.now tx))
        rw [h.shutdown, h.now] at done
        rw [dif_pos paced, dif_pos paced]
        exact done
      · rw [dif_neg paced] at gone ⊢
        rw [dif_neg paced]
        exact h.leave _ hand (gone rfl)
  | failure f => exact ((h.withStage .idle).measure _).answer _ keeps
  | crash text => exact h.leave _ hand (gone rfl)

-- A wait ends.
theorem concludeWait {k : Nat} {began : Nat} {tx : Submitted} {c : Confirmation.Verdict}
    (keeps : v.keeps k = true) (hand : ∀ k ∈ s.inHand, v.keeps k = true)
    (fair : Fair v s (s.concludeWait k began tx c)) (h : Shows v s t) :
    Shows v (s.concludeWait k began tx c) (t.concludeWait (v.ticket k) began tx c) := by
  cases c with
  | settled => exact h.confirm began tx keeps
  | missing => exact ((h.withStage .idle).measure _).answer _ keeps
  | crashed text =>
    refine h.leave _ hand (fair.line ?_)
    rcases s.leave_shape (.crashed text) with ⟨m, shape⟩
    show (s.leave (.crashed text)).waiters = []
    rw [shape]
    rfl

end Shows

/-- What can happen next to two states that show each other: nothing, or the same. -/
inductive Alike (v : Outlook) (s : State σ) : Option (State σ) → Option (State σ) → Prop where
  /-- Nothing. -/
  | rest : Alike v s none none
  /-- The same, if it is fair. -/
  | step {s' t' : State σ} (shows : Fair v s s' → Shows v s' t') : Alike v s (some s') (some t')

namespace Shows

variable {v : Outlook} {q : Setup σ} {s t : State σ}

-- While nothing is stored nobody waits who was not handed a place, so whoever is left
-- out is not the only one in line.
theorem waiters_isEmpty (buffer : s.buffer = [])
    (handed : ∀ e ∈ s.waiters.take s.granted, v.keeps e.ticket = true) (p : Spaced q s)
    (h : Shows v s t) : t.waiters.isEmpty = s.waiters.isEmpty := by
  cases waiters : s.waiters with
  | nil =>
    rw [h.waiters, waiters]
    rfl
  | cons x rest =>
    have some : 0 < q.places := Nat.lt_of_lt_of_le Nat.one_pos (Nat.le_max_left 1 q.capacity)
    have full := p.full
    unfold State.depth at full
    rw [buffer, waiters, List.length_cons, List.length_nil] at full
    have granted : 0 < s.granted := by omega
    have first : v.keeps x.ticket = true := by
      refine handed x ?_
      rcases Nat.exists_eq_add_one.mpr granted with ⟨g, amount⟩
      rw [waiters, amount, List.take_succ_cons]
      exact List.mem_cons_self
    rw [h.waiters, waiters, List.filter_cons, if_pos first]
    rfl

-- An idle worker.
theorem work?_idle {limit : Nat} (idle : s.stage = .idle)
    (hand : ∀ k ∈ s.inHand, v.keeps k = true)
    (handed : ∀ e ∈ s.waiters.take s.granted, v.keeps e.ticket = true) (p : Spaced q s)
    (h : Shows v s t) :
    Alike v s (s.work? q limit) (t.work? q limit) := by
  have stage : t.stage = .idle := by
    rw [h.stage, idle]
    rfl
  simp only [State.work?, idle, stage, h.shutdown, h.held]
  by_cases closed : s.shutdown = true
  · rw [if_pos closed, if_pos closed]
    refine .step fun fair => h.drain idle hand (fair.line ?_)
    rcases s.drain_shape (by rw [idle]; rfl) with ⟨m, shape⟩
    rw [shape]
    rfl
  · rw [if_neg closed, if_neg closed, h.buffer]
    cases buffer : s.buffer with
    | cons x rest =>
      refine .step fun fair => h.receive ?_
      have handed := fair.handed
      rw [(s.receive_frame q x rest).1] at handed
      exact handed
    | nil =>
      dsimp only [List.map_nil]
      rw [h.waiters_isEmpty buffer handed p]
      by_cases ends : (!s.held && s.waiters.isEmpty) = true
      · rw [if_pos ends, if_pos ends]
        rw [Bool.and_eq_true, Bool.not_eq_true', List.isEmpty_iff] at ends
        refine .step fun _ => h.leave .finished hand ?_
        rw [ends.2]
        exact fun e mem => absurd mem List.not_mem_nil
      · rw [if_neg ends, if_neg ends]
        exact .rest

-- The caller's own operation is under way.
theorem work?_direct {limit n : Nat} {answer : Answer Submitted}
    (stage : s.stage = .sending n (.direct answer)) (hand : ∀ k ∈ s.inHand, v.keeps k = true)
    (h : Shows v s t) : Alike v s (s.work? q limit) (t.work? q limit) := by
  have keeps : v.keeps n = true := hand n (by rw [State.inHand, stage]; exact List.mem_cons_self)
  have same : t.stage = .sending (v.ticket n) (.direct answer) := by
    rw [h.stage, stage]
    rfl
  cases answer with
  | never =>
    simp only [State.work?, stage, same]
    exact .rest
  | arriving i outcome =>
    simp only [State.work?, stage, same]
    by_cases due : i ≤ limit
    · rw [if_pos due, if_pos due]
      exact .step fun fair => (h.moveTo i).concludeSend keeps hand ⟨fair.asks, fair.line, fair.handed⟩
    · rw [if_neg due, if_neg due]
      exact .rest

-- A broadcast is under way.
theorem work?_relay {limit n : Nat} {run : Broadcast.Run}
    (stage : s.stage = .sending n (.relay run)) (hand : ∀ k ∈ s.inHand, v.keeps k = true)
    (h : Shows v s t) : Alike v s (s.work? q limit) (t.work? q limit) := by
  have keeps : v.keeps n = true := hand n (by rw [State.inHand, stage]; exact List.mem_cons_self)
  have same : t.stage = .sending (v.ticket n) (.relay run) := by
    rw [h.stage, stage]
    rfl
  simp only [State.work?, stage, same]
  by_cases due : run.due ≤ limit
  · rw [if_pos due, if_pos due, h.outside, run.fire_rename]
    rcases run.fire q.broadcast s.outside with ⟨outcome | next, o⟩
    · exact .step fun fair =>
        (h.after run.due o).concludeSend keeps hand ⟨fair.asks, fair.line, fair.handed⟩
    · exact .step fun _ => (h.after run.due o).withStage (.sending n (.relay next))
  · rw [if_neg due, if_neg due]
    exact .rest

-- A confirmation is waited for.
theorem work?_confirming {limit n began : Nat} {wait : Confirmation.Wait}
    (stage : s.stage = .confirming n began wait) (hand : ∀ k ∈ s.inHand, v.keeps k = true)
    (h : Shows v s t) : Alike v s (s.work? q limit) (t.work? q limit) := by
  have keeps : v.keeps n = true := hand n (by rw [State.inHand, stage]; exact List.mem_cons_self)
  have same : t.stage = .confirming (v.ticket n) began wait := by
    rw [h.stage, stage]
    rfl
  simp only [State.work?, stage, same, h.shutdown]
  by_cases closed : s.shutdown = true
  · rw [if_pos closed, if_pos closed]
    exact .step fun _ => h.confirm began wait.tx keeps
  · rw [if_neg closed, if_neg closed]
    by_cases due : wait.due ≤ limit
    · rw [if_pos due, if_pos due, h.outside, wait.fire_rename]
      rcases wait.fire q.lookup s.outside with ⟨verdict | next, o⟩
      · exact .step fun fair =>
          (h.after wait.due o).concludeWait keeps hand ⟨fair.asks, fair.line, fair.handed⟩
      · exact .step fun _ => (h.after wait.due o).withStage (.confirming n began next)
    · rw [if_neg due, if_neg due]
      exact .rest

/-- The worker does the same in both. -/
theorem work? {limit : Nat} (keeping : Keeping v s) (p : Spaced q s) (h : Shows v s t) :
    Alike v s (s.work? q limit) (t.work? q limit) := by
  -- A worker that is not there does nothing.
  have absent (away : s.stage = .unstarted ∨ ∃ how, s.stage = .ended how) :
      Alike v s (s.work? q limit) (t.work? q limit) := by
    have same : t.stage = s.stage := by
      rcases away with stage | ⟨how, stage⟩
      · rw [h.stage, stage]
        rfl
      · rw [h.stage, stage]
        rfl
    rcases away with stage | ⟨how, stage⟩
    · simp only [State.work?, same, stage]
      exact .rest
    · simp only [State.work?, same, stage]
      exact .rest
  rcases stage : s.stage with _ | _ | ⟨n, answer | run⟩ | ⟨n, began, wait⟩ | how
  · exact absent (Or.inl stage)
  · exact h.work?_idle stage keeping.hand keeping.handed p
  · exact h.work?_direct stage keeping.hand
  · exact h.work?_relay stage keeping.hand
  · exact h.work?_confirming stage keeping.hand
  · exact absent (Or.inr ⟨how, stage⟩)

-- Who is first in line in both, and how many were handed a place.
theorem line_cons {x : Entry} {rest : List Entry} (waiters : s.waiters = x :: rest)
    (keeps : v.keeps x.ticket = true) (h : Shows v s t) :
    t.waiters = x.rename v.ticket ::
      (rest.filter fun e => v.keeps e.ticket).map (Entry.rename v.ticket) := by
  rw [h.waiters, waiters, List.filter_cons, if_pos keeps, List.map_cons]

-- Somebody in line stores its entry, and these are left.
theorem storeOne (x : Entry) (left : List Entry) (h : Shows v s t) :
    Shows v (State.store x { s with waiters := left, granted := s.granted - 1 })
      (State.store (x.rename v.ticket)
        { t with
          waiters := (left.filter fun e => v.keeps e.ticket).map (Entry.rename v.ticket)
          granted := t.granted - 1 }) := by
  have moved : Shows v { s with waiters := left, granted := s.granted - 1 }
      { t with
        waiters := (left.filter fun e => v.keeps e.ticket).map (Entry.rename v.ticket)
        granted := t.granted - 1 } := by
    rcases h with ⟨d, e, heard, gone⟩
    exact .of_image (s := { s with waiters := left, granted := s.granted - 1 }) d e heard gone
  exact moved.store x

/-- Somebody who was handed a place stores its entry. -/
theorem storeAt (before : Nat) (handed : ∀ e ∈ s.waiters.take s.granted, v.keeps e.ticket = true)
    (h : Shows v s t) : Shows v (s.storeAt before) (t.storeAt before) := by
  rcases s.storeAt_cases before with none | ⟨front, x, rest, rfl, granted, waiters⟩
  · -- There is nobody in the other line either.
    have none' : t.waiters.length ≤ before ∨ t.granted ≤ before := by
      rw [h.granted, h.waiters, List.length_map]
      exact none.imp_left (Nat.le_trans (List.length_filter_le _ _))
    rw [State.storeAt_of_none none, State.storeAt_of_none none']
    exact h
  · -- Those before it in line were handed places as well, so they are in the other line.
    have placed : ∀ e ∈ front ++ [x], v.keeps e.ticket = true := by
      intro e mem
      refine handed e ?_
      have first : front ++ [x] <+: s.waiters := ⟨rest, by rw [waiters, List.append_assoc]; rfl⟩
      refine (List.prefix_take_iff.mpr ⟨first, ?_⟩).subset mem
      rw [List.length_append, List.length_singleton]
      exact granted
    have ahead : front.filter (fun e => v.keeps e.ticket) = front :=
      filter_keeps fun e mem => placed e (List.mem_append_left _ mem)
    have keeps : v.keeps x.ticket = true :=
      placed x (List.mem_append_right _ (List.mem_singleton_self x))
    have line : t.waiters = front.map (Entry.rename v.ticket) ++ x.rename v.ticket ::
        (rest.filter fun e => v.keeps e.ticket).map (Entry.rename v.ticket) := by
      rw [h.waiters, waiters, List.filter_append, ahead, List.filter_cons, if_pos keeps,
        List.map_append, List.map_cons]
    have granted' : (front.map (Entry.rename v.ticket)).length < t.granted := by
      rw [List.length_map, h.granted]
      exact granted
    have stored := h.storeOne x (front ++ rest)
    rw [List.filter_append, ahead, List.map_append] at stored
    have other := State.storeAt_eq granted' line
    rw [List.length_map] at other
    rw [State.storeAt_eq granted waiters, other]
    exact stored

/-- Everybody who was handed a place stores an entry. -/
theorem storeGranted (placed : s.granted ≤ s.waiters.length)
    (handed : ∀ e ∈ s.waiters.take s.granted, v.keeps e.ticket = true) (h : Shows v s t) :
    Shows v s.storeGranted t.storeGranted := by
  induction amount : s.granted generalizing s t with
  | zero =>
    rw [State.storeGranted_of_none amount,
      State.storeGranted_of_none (h.granted.trans amount)]
    exact h
  | succ n ih =>
    have some : 0 < s.granted := by omega
    cases waiters : s.waiters with
    | nil =>
      rw [waiters] at placed
      exact absurd (Nat.lt_of_lt_of_le some placed) (Nat.not_lt_zero 0)
    | cons x rest =>
      rw [waiters, amount, List.take_succ_cons] at handed
      rw [waiters, List.length_cons] at placed
      have keeps := handed x List.mem_cons_self
      have fewer : s.granted - 1 = n := by omega
      rw [State.storeGranted_of_cons some waiters,
        State.storeGranted_of_cons (h.granted ▸ some) (h.line_cons waiters keeps)]
      refine ih ?_ ?_ (h.storeOne x rest) fewer
      · show s.granted - 1 ≤ rest.length
        omega
      · show ∀ e ∈ rest.take (s.granted - 1), v.keeps e.ticket = true
        rw [fewer]
        exact fun e mem => handed e (List.mem_cons_of_mem x mem)

/-- The same happens next in both. -/
theorem step? {limit : Nat} (keeping : Keeping v s) (p : Spaced q s) (o : Orderly s)
    (h : Shows v s t) : Alike v s (s.step? q limit) (t.step? q limit) := by
  have soon : Alike v s (s.work? q (min limit s.now)) (t.work? q (min limit s.now)) :=
    h.work? keeping p
  have later : Alike v s (s.work? q limit) (t.work? q limit) := h.work? keeping p
  unfold State.step?
  rw [h.now, h.granted]
  generalize s.work? q (min limit s.now) = next, t.work? q (min limit s.now) = next' at soon
  cases soon with
  | step shows => exact .step shows
  | rest =>
    by_cases some : 0 < s.granted
    · dsimp only
      rw [if_pos some, if_pos some]
      exact .step fun _ => h.storeGranted o.placed keeping.handed
    · dsimp only
      rw [if_neg some, if_neg some]
      exact later

end Shows

end Queue

end TxRelay
