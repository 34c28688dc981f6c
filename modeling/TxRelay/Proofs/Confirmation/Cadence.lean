import TxRelay.Proofs.Confirmation.Lookups

/-!
# The Cadence of a Wait

How much a wait asks of its chain, and how evenly. Whatever the replies are, lookups
come one after another and no faster than the pace allows: each of them is due an
interval after the one before it, less the tolerance of the ticker, and on the whole
they never get ahead of a schedule with exactly one interval between two of them. If
no lookup takes longer than an interval they keep to that schedule.

The bounds do not follow from the distance between neighbours alone, since each of
them could come a little early. What carries them is the schedule of the ticks, which
moves on by a whole interval at least (`add_interval_le_nextTick`), and no lookup
begins before its tick.

## Main definitions

* `Confirmation.Cadence`: How the lookups of a wait follow one another.

## Theorems

* `Confirmation.Prospect.mul_le_scheduled`: Ticks are not ahead of an even schedule.
* `Confirmation.Prospect.start_add_interval_le`: Neighbours keep their distance.
* `Confirmation.Prospect.start_of_prompt`: Without delays the schedule is kept.
* `Confirmation.Watch.record_of_wait`: The lookups of a wait at any instant.
* `Confirmation.cadence_of_wait`: The cadence of every wait.
-/

namespace TxRelay

namespace Confirmation

-- The schedule moves on by a whole interval at least.
theorem add_interval_le_nextTick {interval tick taken : Nat} (late : tick ≤ taken) :
    tick + interval ≤ nextTick interval tick taken := by
  unfold nextTick
  split
  · exact Nat.add_le_add_right late interval
  · exact Nat.le_refl _

-- From when a tick was taken it is an interval to the next one, up to the tolerance.
theorem taken_add_interval_le (interval tick taken : Nat) :
    taken + interval ≤ nextTick interval tick taken + tolerance := by
  unfold nextTick
  split <;> omega

-- A tick that is taken in time moves nothing.
theorem nextTick_self (interval tick : Nat) : nextTick interval tick tick = tick + interval :=
  if_neg (Nat.not_lt.mpr (Nat.le_add_right tick tolerance))

namespace Prospect

variable (p : Prospect)

/-- Ticks are not ahead of an even schedule. -/
theorem mul_le_scheduled (k : Nat) : p.now + k * p.plan.interval ≤ p.scheduled k := by
  induction k with
  | zero => exact Nat.le_of_eq (by rw [Nat.zero_mul]; rfl)
  | succ k ih =>
    calc p.now + (k + 1) * p.plan.interval
        = p.now + k * p.plan.interval + p.plan.interval := by rw [Nat.succ_mul, Nat.add_assoc]
      _ ≤ p.scheduled k + p.plan.interval := Nat.add_le_add_right ih _
      _ ≤ p.scheduled (k + 1) := add_interval_le_nextTick (scheduled_le_start k)

/-- Lookups keep their distance. -/
theorem start_add_interval_le (k : Nat) :
    p.start k + p.plan.interval ≤ p.start (k + 1) + tolerance :=
  Nat.le_trans (taken_add_interval_le _ _ _) (Nat.add_le_add_right (scheduled_le_start (k + 1)) _)

variable {p}

/-- Without delays the schedule is kept. -/
theorem start_of_prompt {n : Nat} (prompt : ∀ k, k < n → p.span k ≤ p.plan.interval) :
    p.scheduled n = p.now + n * p.plan.interval ∧ p.start n = p.scheduled n := by
  induction n with
  | zero => exact ⟨by rw [Nat.zero_mul]; rfl, rfl⟩
  | succ n ih =>
    obtain ⟨even, kept⟩ := ih fun k less => prompt k (Nat.lt_succ_of_lt less)
    -- The tick was taken in time, so the next one is an interval later.
    have next : p.scheduled (n + 1) = p.scheduled n + p.plan.interval :=
      (congrArg (nextTick p.plan.interval (p.scheduled n)) kept).trans (nextTick_self _ _)
    refine ⟨?_, ?_⟩
    · rw [next, even, Nat.succ_mul, Nat.add_assoc]
    · rw [start_eq, next, rested, kept]
      exact Nat.max_eq_left (Nat.add_le_add_left (prompt n (Nat.lt_succ_self n)) _)

end Prospect

/-- How the lookups of a wait follow one another that began at these instants. -/
structure Cadence (p : Prospect) (times : List Nat) : Prop where
  /-- The first one begins at once. -/
  first : ∀ t, times[0]? = some t → t = p.now
  /-- None begins before the one in front of it was answered. -/
  apart : ∀ k t u, times[k]? = some t → times[k + 1]? = some u →
    ∃ delay outcome, p.reply k = .after delay outcome ∧ t + delay ≤ u
  /-- None is ahead of an even schedule. -/
  paced : ∀ k t, times[k]? = some t → p.now + k * p.plan.interval ≤ t
  /-- So there are only so many. -/
  few : times.length ≤ p.plan.limit / p.plan.interval + 1
  /-- Between two of them is an interval, less five milliseconds at the most. -/
  spaced : ∀ k t u, times[k]? = some t → times[k + 1]? = some u → t + p.plan.interval ≤ u + 5
  /-- If none takes longer than an interval, the schedule is even. -/
  steady : (∀ k, k + 1 < times.length →
      ∃ delay outcome, p.reply k = .after delay outcome ∧ delay ≤ p.plan.interval) →
    ∀ k t, times[k]? = some t → t = p.now + k * p.plan.interval

/-- Lookups that are reached and begin while the wait lasts. -/
theorem Prospect.cadence {p : Prospect} (positive : 0 < p.plan.interval) {n : Nat}
    (asks : ∀ k, k < n → p.Reached k ∧ p.During (p.start k)) :
    Cadence p ((List.range n).map p.start) := by
  have began {k t : Nat} (here : ((List.range n).map p.start)[k]? = some t) :
      k < n ∧ p.start k = t := by
    rw [List.getElem?_map, Option.map_eq_some_iff] at here
    obtain ⟨j, found, rfl⟩ := here
    obtain ⟨less, rfl⟩ := List.getElem?_eq_some_iff.mp found
    rw [List.length_range] at less
    rw [List.getElem_range]
    exact ⟨less, rfl⟩
  refine ⟨fun t here => ?_, fun k t u here next => ?_, fun k t here => ?_, ?_,
    fun k t u here next => ?_, fun prompt k t here => ?_⟩
  · exact (began here).2.symm
  · obtain ⟨-, rfl⟩ := began here
    obtain ⟨less, rfl⟩ := began next
    obtain ⟨delay, outcome, reply, -, le⟩ := (asks _ less).1.answer_le_start (Nat.lt_succ_self k)
    exact ⟨delay, outcome, reply, le⟩
  · obtain ⟨-, rfl⟩ := began here
    exact Nat.le_trans (p.mul_le_scheduled k) (Prospect.scheduled_le_start k)
  · -- The last one is not past the deadline.
    rw [List.length_map, List.length_range]
    cases n with
    | zero => exact Nat.zero_le _
    | succ n =>
      have early : p.start n ≤ p.now + p.plan.limit := (asks n (Nat.lt_succ_self n)).2.1
      have late := Nat.le_trans (p.mul_le_scheduled n) (Prospect.scheduled_le_start n)
      exact Nat.succ_le_succ ((Nat.le_div_iff_mul_le positive).mpr (by omega))
  · obtain ⟨-, rfl⟩ := began here
    obtain ⟨-, rfl⟩ := began next
    exact p.start_add_interval_le k
  · obtain ⟨less, rfl⟩ := began here
    obtain ⟨even, kept⟩ := Prospect.start_of_prompt (p := p) (n := k) fun j before => by
      obtain ⟨delay, outcome, reply, soon⟩ :=
        prompt j (by rw [List.length_map, List.length_range]; omega)
      rw [Prospect.span, reply]
      exact soon
    rw [kept, even]

namespace Watch

variable {σ : Type} {lookup : Lookup σ}

variable (lookup) in
-- A wait adds to the record.
theorem acts_runTo (limit : Nat) (v : Watch σ) :
    ∃ more, (v.runTo lookup limit).outside.acts = more ++ v.outside.acts := by
  refine (timed lookup).induct (P := fun u => ∃ more, u.outside.acts = more ++ v.outside.acts)
    (fun u w grown taken => ?_) v ⟨[], rfl⟩
  obtain ⟨more, grown⟩ := grown
  unfold step? at taken
  split at taken
  · exact absurd taken (by simp)
  · rename_i wait _
    split at taken
    · split at taken
      · rw [← Option.some.inj taken]
        exact ⟨more, grown⟩
      · exact absurd taken (by simp)
    · split at taken
      · rw [← Option.some.inj taken]
        dsimp only
        rcases wait.fire_acts lookup u.outside with same | added
        · exact ⟨more, same.trans grown⟩
        · exact ⟨_ :: more, by rw [added, grown]; rfl⟩
      · exact absurd taken (by simp)

/-- The lookups of a wait at any instant: the first few of those that it makes. -/
theorem record_of_wait (lookup : Lookup σ) (plan : Plan) (positive : 0 < plan.interval) (now : Nat)
    (shutdown : Option Nat) (tx : Submitted) (o : Surroundings σ) (limit : Nat) :
    let p : Prospect := ⟨plan, now, shutdown, Replies.reply (lookup tx.chain tx.hash) o.world⟩
    ∃ n, (∀ k, k < n → p.Reached k ∧ p.During (p.start k)) ∧
      ((begin plan now shutdown tx o).runTo lookup limit).outside.acts =
        ((List.range n).map fun k => (p.start k, Act.lookup tx.chain tx.hash)).reverse ++
          o.acts := by
  intro p
  obtain ⟨verdict, i, asked, concludes, asks, run⟩ :=
    runTo_begin lookup plan positive now shutdown tx o
  -- Its record goes on to be that of the whole wait.
  have ends := ((timed lookup).of_end run (fun _ => rfl) concludes.le_deadline).1
  have whole := (timed lookup).run_run (Nat.le_max_left limit i) (begin plan now shutdown tx o)
  rw [ends _ (Nat.le_max_right limit i)] at whole
  obtain ⟨more, here⟩ := acts_runTo lookup limit (begin plan now shutdown tx o)
  obtain ⟨rest, later⟩ := acts_runTo lookup (max limit i)
    ((begin plan now shutdown tx o).runTo lookup limit)
  rw [whole, here, ← List.append_assoc] at later
  have parts : (List.range asked).map (fun k => (p.start k, Act.lookup tx.chain tx.hash)) =
      more.reverse ++ rest.reverse := by
    rw [← List.reverse_append]
    exact List.reverse_eq_iff.mp (List.append_cancel_right later)
  have short : more.length ≤ asked := by
    have := congrArg List.length parts
    simp only [List.length_map, List.length_range, List.length_append, List.length_reverse] at this
    omega
  refine ⟨more.length, fun k less => (asks k).mp (Nat.lt_of_lt_of_le less short), ?_⟩
  have front := congrArg (List.take more.reverse.length) parts
  rw [List.take_left, ← List.map_take, List.take_range, List.length_reverse,
    Nat.min_eq_left short] at front
  rw [front, List.reverse_reverse]
  exact here

-- A wait that is not shut down asks at once.
theorem asks_at_once (lookup : Lookup σ) {plan : Plan} (positive : 0 < plan.interval) {now : Nat}
    {shutdown : Option Nat} (running : ∀ s ∈ shutdown, now < s) (tx : Submitted)
    (o : Surroundings σ) {limit : Nat} (late : now ≤ limit) :
    ∃ more, ((begin plan now shutdown tx o).runTo lookup limit).outside.acts =
      more ++ (now, Act.lookup tx.chain tx.hash) :: o.acts := by
  have due := Wait.due_begin plan positive now tx
  have next : (Wait.begin plan positive now tx).next = .tick now := by
    unfold Wait.next Wait.begin
    dsimp only
    rw [Nat.max_self, if_pos (Nat.le_add_right now plan.limit)]
  have state : (begin plan now shutdown tx o).state = .inr (Wait.begin plan positive now tx) :=
    congrArg Watch.state (begin_eq_resting lookup running positive
      (Replies.reply (lookup tx.chain tx.hash) o.world))
  rw [runTo_of_lasting state (by rw [due]; exact running) (by rw [due]; exact late)]
  refine (acts_runTo lookup limit _).imp fun more grown => grown.trans ?_
  rw [Wait.fire_tick next]
  rfl

end Watch

/-- The cadence of every wait, whatever the replies to its lookups are and whenever it is
    looked at. The lookups that it made by then are on the record, in the order of time, and
    followed one another as they should; a wait that is not shut down has made one at
    once. -/
theorem cadence_of_wait {σ : Type} (lookup : Lookup σ) (plan : Plan)
    (positive : 0 < plan.interval) (now : Nat) (shutdown : Option Nat) (tx : Submitted)
    (o : Surroundings σ) (limit : Nat) :
    ∃ times : List Nat,
      ((Watch.begin plan now shutdown tx o).runTo lookup limit).outside.acts =
        (times.map fun t => (t, Act.lookup tx.chain tx.hash)).reverse ++ o.acts ∧
      ((∀ s ∈ shutdown, now < s) → now ≤ limit → times ≠ []) ∧
      Cadence ⟨plan, now, shutdown, Replies.reply (lookup tx.chain tx.hash) o.world⟩ times := by
  obtain ⟨n, asks, record⟩ :=
    Watch.record_of_wait lookup plan positive now shutdown tx o limit
  refine ⟨_, ?_, fun running late none => ?_, Prospect.cadence positive asks⟩
  · rw [List.map_map]
    exact record
  · -- What it asked at once is on the record.
    obtain ⟨more, first⟩ := Watch.asks_at_once lookup positive running tx o late
    rw [List.map_eq_nil_iff] at none
    rw [record, none] at first
    have := congrArg List.length first
    simp at this
    omega

/-- A chain on which every lookup takes a little longer than the second between two of
    them. -/
def sluggish (_ : ChainId) (_ : Hash) : Nat → Reply Bool × Nat :=
  Replies.inOrder fun _ => .after 1003 (.value true)

/-- Whatever such a chain does, five seconds see at most six lookups. -/
theorem cadence_of_sluggish_chain :
    0 < 1000 ∧ ∃ times : List Nat,
      ((Watch.begin ⟨1000, 5000⟩ 0 none ⟨1, .repeated 32 0⟩ (.fresh 0)).runTo sluggish
          6000).outside.acts =
        (times.map fun t => (t, Act.lookup 1 (.repeated 32 0))).reverse ++ [] ∧
      times.head? = some 0 ∧ times.length ≤ 6 ∧
      ∀ k t, times[k]? = some t → k * 1000 ≤ t := by
  obtain ⟨times, record, some, cadence⟩ := cadence_of_wait sluggish ⟨1000, 5000⟩ (by decide) 0 none
    ⟨1, .repeated 32 0⟩ (.fresh 0) 6000
  refine ⟨by decide, times, record, ?_, cadence.few, fun k t here => ?_⟩
  · cases times with
    | nil => exact absurd rfl (some (by simp) (by decide))
    | cons t rest => rw [List.head?_cons, cadence.first t rfl]
  · exact Nat.le_trans (Nat.le_of_eq (Nat.zero_add _).symm) (cadence.paced k t here)

end Confirmation

end TxRelay
