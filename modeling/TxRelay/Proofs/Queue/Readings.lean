import TxRelay.Proofs.Queue.Conservation

/-!
# What the Metrics Show

What each operation of a queue writes into the metrics. Callers that are turned
away are counted among the events of the queue and nowhere else. The gauge is
written when an entry is stored, when one is taken and when the worker goes away.
Confirmations and their latencies are written by the worker alone, at the step
that answers a submission as submitted.

## Main definitions

* `Labelled.counted`: The number of latencies under a label.
* `Queue.Records`: What a step in flight writes.

## Theorems

* `ChainId.toString_inj`: Every chain has its own label.
* `Queue.State.close_written`, `leave_written`, `drain_written`: What a shutdown writes,
  and a worker that goes away.
* `Queue.Flight.records`: What a step in flight writes.
-/

namespace TxRelay

/-- Every chain has its own label. -/
theorem ChainId.toString_inj {a b : ChainId} (same : toString a = toString b) : a = b := by
  have text : Nat.repr a.toNat = Nat.repr b.toNat := same
  rw [Nat.repr_eq_ofList_toDigits, Nat.repr_eq_ofList_toDigits] at text
  have digits := String.ofList_injective text
  have number := congrArg (Nat.ofDigitChars 10 · 0) digits
  simp only [Nat.ofDigitChars_ten_toDigits] at number
  exact UInt64.toNat.inj number

namespace Labelled

variable {label other : String}

/-- The number of latencies under a label. -/
def counted (label : String) (values : Labelled Histogram) : Nat :=
  ((get? label values).map Histogram.count).getD 0

theorem counted_observe_self (label : String) (latency : Binary64) {values : Labelled Histogram}
    (sorted : values.Sorted) :
    counted label (values.adjust label .empty (.observe latency)) = counted label values + 1 := by
  unfold counted
  rw [get?_adjust_self label .empty _ sorted]
  cases get? label values <;> rfl

theorem counted_observe_other (latency : Binary64) (values : Labelled Histogram)
    (differ : other ≠ label) :
    counted other (values.adjust label .empty (.observe latency)) = counted other values := by
  unfold counted
  rw [get?_adjust_other .empty _ values differ]

end Labelled

namespace Metrics

-- The gauge is not a count. Its number is kept out of sight, since it is written
-- down modulo a power of two that nothing should unfold.

theorem confirmed_setQueueDepth (depth : Nat) (m : Metrics) :
    (m.setQueueDepth depth).confirmed = m.confirmed := by
  have other (d : Int) : ({ m with queueDepth := d } : Metrics).confirmed = m.confirmed := rfl
  exact other _

theorem latency_setQueueDepth (depth : Nat) (m : Metrics) :
    (m.setQueueDepth depth).latency = m.latency := by
  have other (d : Int) : ({ m with queueDepth := d } : Metrics).latency = m.latency := rfl
  exact other _

/-- A gauge that is not above the number of places a queue can have is exact. -/
theorem queueDepth_setQueueDepth {depth : Nat} (small : depth ≤ Queue.maxPlaces) (m : Metrics) :
    (m.setQueueDepth depth).queueDepth = depth := by
  have written (d : Int) : ({ m with queueDepth := d } : Metrics).queueDepth = d := rfl
  have bound : Queue.maxPlaces < 2 ^ 62 := by decide
  refine (written _).trans ?_
  unfold UInt64.size
  exact Int.bmod_eq_of_le (by omega) (by omega)

end Metrics

-- A wait writes failed lookups only.
theorem Confirmation.Wait.metrics_fire {σ : Type} (lookup : Lookup σ) (w : Wait)
    (s : Surroundings σ) :
    ∃ p, (w.fire lookup s).2.metrics = { s.metrics with pollErrors := p } := by
  rcases next : w.next with i | ⟨i, (_ | _) | f | text⟩ | i
  · rw [fire_tick next]
    exact ⟨_, rfl⟩
  · rw [fire_settled next]
    exact ⟨_, rfl⟩
  · rw [fire_pending next]
    exact ⟨_, rfl⟩
  · rw [fire_failure next]
    exact ⟨_, rfl⟩
  · rw [fire_crash next]
    exact ⟨_, rfl⟩
  · rw [fire_giveUp next]
    exact ⟨_, rfl⟩

namespace Queue

variable {σ : Type}

namespace State

theorem metrics_rejectAll (tickets : List Nat) (s : State σ) :
    ∃ e, (s.rejectAll tickets).outside.metrics = { s.outside.metrics with queueEvents := e } := by
  induction tickets generalizing s with
  | nil => exact ⟨_, rfl⟩
  | cons n rest ih =>
    rcases ih (s.reject n) with ⟨e, others⟩
    exact ⟨e, others⟩

theorem metrics_releaseWaiters (s : State σ) :
    ∃ e, s.releaseWaiters.outside.metrics = { s.outside.metrics with queueEvents := e } :=
  metrics_rejectAll _ { s with waiters := [], granted := 0 }

/-- A worker that goes away clears the gauge. -/
theorem metrics_leave (how : Ending) (s : State σ) :
    ∃ e, (s.leave how).outside.metrics =
      { s.outside.metrics with queueEvents := e, queueDepth := 0 } := by
  have told := s.answerAll_eq (.failed .missingResult)
    (s.stage.ticket?.toList ++ s.buffer.map Entry.ticket)
  unfold leave
  rw [told]
  dsimp only
  rcases metrics_releaseWaiters { s with
    lifecycle := .stopped, stage := .ended how, buffer := []
    events := (s.answerAll (.failed .missingResult)
      (s.stage.ticket?.toList ++ s.buffer.map Entry.ticket)).events } with ⟨e, released⟩
  refine ⟨e, ?_⟩
  show Metrics.setQueueDepth 0 (releaseWaiters _).outside.metrics = _
  rw [released]
  rfl

theorem metrics_drain (s : State σ) :
    ∃ e, s.drain.outside.metrics =
      { s.outside.metrics with queueEvents := e, queueDepth := 0 } := by
  have told := s.answerAll_eq (.failed .queueClosed) (s.buffer.map Entry.ticket)
  unfold drain
  rw [told]
  dsimp only
  rcases metrics_leave .finished ({ s with
      buffer := []
      events := (s.answerAll (.failed .queueClosed) (s.buffer.map Entry.ticket)).events }.measure
    fun m => m.recordDrained s.buffer.length) with ⟨e, left⟩
  exact ⟨e, left⟩

/-- What a shutdown does, with what it writes. -/
theorem close_written (s : State σ) :
    ∃ e, { s with lifecycle := .stopping, shutdown := true }.releaseWaiters =
      s.shut.measure fun _ => { s.outside.metrics with queueEvents := e } := by
  rcases metrics_releaseWaiters { s with lifecycle := .stopping, shutdown := true }
    with ⟨e, written⟩
  rcases s.close_shape with ⟨m, shape⟩
  rw [shape] at written ⊢
  change m = _ at written
  exact ⟨e, by rw [written]⟩

/-- What a worker does that goes away, with what it writes. -/
theorem leave_written (how : Ending) (s : State σ) :
    ∃ e, s.leave how =
      (s.cleared how
        (s.refusals s.inLine ++ s.replies (.failed .missingResult) s.inHand)).measure
        fun _ => { s.outside.metrics with queueEvents := e, queueDepth := 0 } := by
  rcases s.metrics_leave how with ⟨e, written⟩
  rcases s.leave_shape how with ⟨m, shape⟩
  rw [shape] at written ⊢
  change m = _ at written
  exact ⟨e, by rw [written]⟩

/-- What the worker of a closed queue does, with what it writes. -/
theorem drain_written (s : State σ) (idle : s.stage.ticket? = none) :
    ∃ e, s.drain =
      (s.cleared .finished
        (s.refusals s.inLine ++ s.replies (.failed .queueClosed) (s.buffer.map Entry.ticket))).measure
        fun _ => { s.outside.metrics with queueEvents := e, queueDepth := 0 } := by
  rcases s.metrics_drain with ⟨e, written⟩
  rcases s.drain_shape idle with ⟨m, shape⟩
  rw [shape] at written ⊢
  change m = _ at written
  exact ⟨e, by rw [written]⟩

/-- A caller that stores its entry shows how many places are taken. -/
theorem metrics_store (e : Entry) (s : State σ) :
    (s.store e).outside.metrics =
      s.outside.metrics.recordEnqueued.setQueueDepth (s.buffer.length + 1 + s.granted) := by
  have depth : ({ s with buffer := s.buffer ++ [e] }.tell (.accepted e.ticket)).depth =
      s.buffer.length + 1 + s.granted := congrArg (· + s.granted) List.length_append
  unfold store
  dsimp only
  rw [depth]
  rfl

/-- A worker that takes an entry shows how many are left. -/
theorem metrics_receive (q : Setup σ) (e : Entry) (rest : List Entry) (s : State σ) :
    (s.receive q e rest).outside.metrics = s.outside.metrics.setQueueDepth rest.length := by
  unfold receive
  cases e.send <;> rfl

end State

/-- What a step in flight writes, by what becomes of the submission. -/
inductive Records (m : Metrics) : Fate → Metrics → Prop where
  /-- The submission counts as confirmed. -/
  | confirmed (tx : Submitted) (latency : Binary64) :
      Records m (.answered (.submitted tx)) (m.recordConfirmed tx.chain latency)
  /-- It does not. -/
  | other {fate : Fate} (unsubmitted : ∀ tx, fate ≠ .answered (.submitted tx))
      (pollErrors unconfirmed : Labelled Nat) (sendFailures : Nat) :
      Records m fate
        { m with
          pollErrors := pollErrors, unconfirmed := unconfirmed, sendFailures := sendFailures }

namespace Flight

variable {q : Setup σ} {s : State σ} {n i : Nat} {d : Option Happening} {o : Surroundings σ}

-- A step that does not answer writes nothing but failed lookups.
theorem records_quiet {fate : Fate} {m : Metrics} (unanswered : ∀ r, fate ≠ .answered r)
    (p : Labelled Nat) (quiet : o.metrics = { m with pollErrors := p }) :
    Records m fate o.metrics := by
  rw [quiet]
  exact .other (fun tx => unanswered (.submitted tx)) p m.unconfirmed m.sendFailures

/-- What a step in flight writes. -/
theorem records {fate : Fate} (flight : Flight q s n i d o fate) :
    Records s.outside.metrics fate o.metrics := by
  cases flight with
  | @retries run next _ stage fire =>
    have same := run.metrics_fire q.broadcast s.outside
    rw [fire] at same
    exact records_quiet (fun _ => Fate.noConfusion) _ same
  | failed returns =>
    dsimp only [Surroundings.measure]
    rw [metrics_of_returns returns]
    refine .other (fun tx same => ?_) _ _ _
    exact absurd (Fate.answered.inj same) (by simp only [reduceCtorEq, not_false_eq_true])
  | sendCrashed returns =>
    exact records_quiet (fun _ => Fate.noConfusion) _ (metrics_of_returns returns)
  | sentLate returns closed =>
    dsimp only [Surroundings.measure]
    rw [metrics_of_returns returns]
    exact .confirmed _ _
  | sent returns opened paced =>
    exact records_quiet (fun _ => Fate.noConfusion) _ (metrics_of_returns returns)
  | unpaced returns opened unpaced =>
    exact records_quiet (fun _ => Fate.noConfusion) _ (metrics_of_returns returns)
  | abandoned stage closed => exact .confirmed _ _
  | @asks _ _ wait _ _ stage opened tick fire =>
    rcases wait.metrics_fire q.lookup s.outside with ⟨p, same⟩
    rw [fire] at same
    exact records_quiet (fun _ => Fate.noConfusion) p same
  | @pending _ _ wait _ _ _ stage opened answer fire =>
    rcases wait.metrics_fire q.lookup s.outside with ⟨p, same⟩
    rw [fire] at same
    exact records_quiet (fun _ => Fate.noConfusion) p same
  | settled stage opened answer => exact .confirmed _ _
  | lookupCrashed stage opened answer => exact records_quiet (fun _ => Fate.noConfusion) _ rfl
  | gaveUp stage opened limit =>
    refine .other (fun tx same => ?_) _ _ _
    exact absurd (Fate.answered.inj same) (by simp only [reduceCtorEq, not_false_eq_true])

end Flight

end Queue

end TxRelay
