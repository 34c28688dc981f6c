import TxRelay.Proofs.Confirmation.Alone
import TxRelay.Proofs.Confirmation.Prospect
import TxRelay.Proofs.Metrics.Counting
import TxRelay.Proofs.Replies
import TxRelay.Proofs.Timed

/-!
# The Lookups of a Wait

A wait for confirmation takes the course that its prospect foretells: it looks the
transaction up when the prospect says that a lookup begins, it counts the lookups
that fail, and it is over as the prospect concludes, at that instant and not before.

The run is followed from one lookup to the next. `Watch.resting` is a wait that has
got so many answers, and `Watch.asking` one that has just asked again. Each goes on
to the other as long as the wait lasts. Ticks go on, so at some lookup it does not,
and then either the answer ends the wait or it is cut off.

## Main definitions

* `Confirmation.Prospect.looked`: What a wait does to its surroundings.
* `Confirmation.Watch.resting`, `Confirmation.Watch.asking`,
  `Confirmation.Watch.ended`: The states of a wait.

## Theorems

* `Confirmation.Watch.runTo_of_cut`: How a wait is cut off.
* `Confirmation.Watch.timed`: A wait is a machine on the clock.
* `Confirmation.Watch.runTo_begin`: The run of a wait to its end.
* `Confirmation.outcome_of_wait`: How and when a wait ends.
-/

namespace TxRelay

namespace Confirmation

variable {σ : Type}

namespace Prospect

/-- What surroundings become when a wait makes so many lookups, and so many of them
    are answered while it lasts. -/
def looked (p : Prospect) (lookup : Lookup σ) (tx : Submitted) (asked answered : Nat)
    (o : Surroundings σ) : Surroundings σ :=
  { o.called (lookup tx.chain tx.hash) (.lookup tx.chain tx.hash) p.start asked with
    metrics := Nat.repeat (Metrics.recordPollError tx.chain) (p.failures answered) o.metrics }

variable {p : Prospect} {lookup : Lookup σ} {tx : Submitted} {o : Surroundings σ}

-- One more lookup.
theorem call_looked (replies : p.reply = Replies.reply (lookup tx.chain tx.hash) o.world)
    (k : Nat) :
    (p.looked lookup tx k k o).call (p.start k) (.lookup tx.chain tx.hash)
        (lookup tx.chain tx.hash) =
      ((p.reply k).calledAt (p.start k), p.looked lookup tx (k + 1) k o) := by
  have called := Surroundings.call_called (lookup tx.chain tx.hash)
    (.lookup tx.chain tx.hash) p.start o k
  rw [← replies] at called
  have answer := congrArg Prod.fst called
  have record := congrArg (fun r => r.2.acts) called
  dsimp only [Surroundings.call, Surroundings.called] at answer record
  unfold looked Surroundings.call Surroundings.called
  dsimp only
  rw [answer, record]
  rfl

-- One more answer, which is a failure.
theorem measure_looked {k : Nat} (asked : Nat) (fails : p.fails k = true) :
    (p.looked lookup tx asked k o).measure (Metrics.recordPollError tx.chain) =
      p.looked lookup tx asked (k + 1) o := by
  unfold looked
  rw [failures_succ, if_pos fails]
  rfl

-- One more answer, or none, which is not a failure while the wait lasts.
theorem looked_succ {k : Nat} (asked : Nat) (fails : p.fails k = false) :
    p.looked lookup tx asked (k + 1) o = p.looked lookup tx asked k o := by
  unfold looked
  rw [failures_succ, fails]
  rfl

-- Failed lookups are counted for the chain, one by one.
theorem pollErrors_looked (asked answered : Nat) :
    (p.looked lookup tx asked answered o).metrics.pollErrors =
      Nat.repeat (Labelled.count (toString tx.chain) 1) (p.failures answered)
        o.metrics.pollErrors := by
  unfold looked
  dsimp only
  induction p.failures answered with
  | zero => rfl
  | succ n ih => exact congrArg _ ih

end Prospect

namespace Watch

variable {lookup : Lookup σ} {limit : Nat} {p : Prospect}

section Cut

variable {v : Watch σ} {w : Wait}

-- A shutdown that comes before the next step ends the wait.
theorem runTo_of_stop {s : Nat} (under : v.state = .inr w) (stops : s ∈ v.shutdown)
    (soon : s ≤ w.due) (within : s ≤ limit) :
    v.runTo lookup limit = { v with now := max v.now s, state := .inl .settled } := by
  have step : v.step? lookup limit =
      some { v with now := max v.now s, state := .inl .settled } := by
    have filtered : (some s).filter (· ≤ w.due) = some s := by simp [soon]
    unfold step?
    rw [under, Option.mem_def.mp stops]
    dsimp only
    rw [filtered]
    exact if_pos within
  exact (iterate_eq_of_some step).trans (runTo_of_over rfl)

/-- How a wait is cut off that would give up next, or not take its next step before
    the shutdown. -/
theorem runTo_of_cut (under : v.state = .inr w) (shutdown : v.shutdown = p.shutdown)
    (deadline : w.deadline = p.deadline) (clock : w.since = v.now) (began : p.now ≤ v.now)
    (lasts : p.During v.now) (stuck : (∃ i, w.next = .giveUp i) ∨ ¬p.During w.due)
    (late : p.deadline ≤ limit) :
    ∃ verdict i, p.Cut verdict i ∧
      v.runTo lookup limit = { v with now := i, state := .inl verdict } := by
  have timely : w.Timely := by
    unfold Wait.Timely
    rw [clock, deadline]
    exact lasts.1
  have due : w.due ≤ p.deadline := deadline ▸ Wait.due_le_deadline timely
  by_cases stop : ∃ s ∈ p.shutdown, s ≤ w.due
  · rcases stop with ⟨s, stops, soon⟩
    have soon' : s ≤ p.deadline := Nat.le_trans soon due
    have after : v.now < s := lasts.2 s stops
    refine ⟨.settled, _, .stopped stops soon', ?_⟩
    rw [runTo_of_stop under (shutdown ▸ stops) soon (Nat.le_trans soon' late),
      Nat.max_eq_right (Nat.le_of_lt after),
      Nat.max_eq_left (Nat.le_trans began (Nat.le_of_lt after))]
  · -- The shutdown does not come before the next step, so that step gives up.
    have running : ∀ s ∈ p.shutdown, w.due < s := fun s stops =>
      Nat.not_le.mp fun soon => stop ⟨s, stops, soon⟩
    rcases stuck with ⟨i, next⟩ | not
    · have instant : w.due = p.deadline :=
        (congrArg Wait.Next.instant next).trans ((Wait.next_giveUp timely next).trans deadline)
      refine ⟨.missing, _, .missing fun s stops => instant ▸ running s stops, ?_⟩
      rw [runTo_of_lasting under (shutdown ▸ running) (Nat.le_trans due late),
        Wait.fire_giveUp next, instant, Nat.max_eq_right lasts.1]
      exact runTo_of_over rfl
    · exact absurd ⟨due, running⟩ not

end Cut

section Timed

variable {u v : Watch σ}

-- A step falls on an instant, and is taken by whoever runs up to it.
theorem step?_inv (h : v.step? lookup limit = some u) :
    ∃ i, i ≤ limit ∧ u.now = max v.now i ∧ ∀ b, i ≤ b → v.step? lookup b = some u := by
  unfold step? at h
  unfold step?
  rcases state : v.state with verdict | w
  · rw [state] at h
    exact absurd h (by simp)
  · rw [state] at h
    dsimp only at h ⊢
    rcases stop : v.shutdown.filter (· ≤ w.due) with _ | s
    · rw [stop] at h
      dsimp only at h ⊢
      split at h
      · rename_i due
        exact ⟨w.due, due, congrArg Watch.now (Option.some.inj h).symm,
          fun b le => (if_pos le).trans h⟩
      · exact absurd h (by simp)
    · rw [stop] at h
      dsimp only at h ⊢
      split at h
      · rename_i due
        exact ⟨s, due, congrArg Watch.now (Option.some.inj h).symm,
          fun b le => (if_pos le).trans h⟩
      · exact absurd h (by simp)

/-- A wait is a machine on the clock. -/
theorem timed (lookup : Lookup σ) : Timed (step? lookup) Watch.now (runTo lookup) where
  instant := step?_inv
  rest := iterate_eq_of_none
  next := iterate_eq_of_some
  stops _ := iterate_at_rest
  induct := iterate_induction

-- A wait that has a step left is under way.
theorem under_way (more : ¬∀ limit, v.step? lookup limit = none) : ∃ w, v.state = .inr w := by
  rcases state : v.state with verdict | w
  · exact absurd (fun limit => by unfold step?; rw [state]) more
  · exact ⟨w, rfl⟩

end Timed

end Watch

namespace Wait

variable {p : Prospect} (positive : 0 < p.plan.interval) (tx : Submitted) (k : Nat)

/-- The wait for a transaction after so many answers, none of which ended it. -/
def resting : Wait :=
  ⟨tx, p.plan.interval, positive, p.deadline, p.scheduled k, p.rested k, .resting⟩

/-- The wait for a transaction that has asked again after so many answers. -/
def asking : Wait :=
  ⟨tx, p.plan.interval, positive, p.deadline, p.scheduled (k + 1), p.start k,
    .asking ((p.reply k).calledAt (p.start k))⟩

-- A wait that rests takes a tick, if that is in time.
theorem next_resting :
    (resting positive tx k).next =
      if p.start k ≤ p.deadline then .tick (p.start k)
      else .giveUp (max p.deadline (p.rested k)) := by
  unfold next resting
  dsimp only
  rw [← Prospect.start_eq]

variable {positive tx k}

-- A wait that asks gets the answer, if that is in time.
theorem next_asking {delay : Nat} {outcome : Outcome Bool}
    (reply : p.reply k = .after delay outcome) :
    (asking positive tx k).next =
      if p.start k + delay ≤ p.deadline then .answer (p.start k + delay) outcome
      else .giveUp (max p.deadline (p.start k)) := by
  unfold next asking
  rw [reply, Reply.calledAt]
  dsimp only
  rw [Nat.max_eq_left (Nat.le_add_right _ _)]

theorem next_asking_of_never (reply : p.reply k = .never) :
    (asking positive tx k).next = .giveUp (max p.deadline (p.start k)) := by
  unfold next asking
  rw [reply, Reply.calledAt]

end Wait

namespace Watch

variable {lookup : Lookup σ} {limit : Nat} {p : Prospect}

variable (lookup) (positive : 0 < p.plan.interval) (tx : Submitted) (o : Surroundings σ)

/-- A wait with its surroundings that has got so many answers. -/
def resting (k : Nat) : Watch σ :=
  ⟨p.rested k, p.shutdown, .inr (.resting positive tx k), p.looked lookup tx k k o⟩

/-- A wait with its surroundings that has asked again after so many answers. -/
def asking (k : Nat) : Watch σ :=
  ⟨p.start k, p.shutdown, .inr (.asking positive tx k), p.looked lookup tx (k + 1) k o⟩

variable (p) in
/-- A wait with its surroundings that is over, after so many lookups. -/
def ended (k : Nat) (verdict : Verdict) (i : Nat) : Watch σ :=
  ⟨i, p.shutdown, .inl verdict, p.looked lookup tx k k o⟩

variable {lookup positive tx o} {k : Nat}

-- As long as the wait lasts, the next tick begins a lookup.
theorem runTo_resting_of_during
    (replies : p.reply = Replies.reply (lookup tx.chain tx.hash) o.world)
    (lasts : p.During (p.start k)) (late : p.deadline ≤ limit) :
    (resting lookup positive tx o k).runTo lookup limit =
      (asking lookup positive tx o k).runTo lookup limit := by
  have next : (Wait.resting positive tx k).next = .tick (p.start k) :=
    (Wait.next_resting positive tx k).trans (if_pos lasts.1)
  have due : (Wait.resting positive tx k).due = p.start k := congrArg Wait.Next.instant next
  rw [runTo_of_lasting (v := resting lookup positive tx o k) rfl (due ▸ lasts.2)
    (due ▸ Nat.le_trans lasts.1 late), Wait.fire_tick next, due]
  dsimp only [resting, Wait.resting]
  rw [Prospect.call_looked replies, Nat.max_eq_right (Prospect.rested_le_start k)]
  rfl

-- An answer that comes while the wait lasts.
theorem runTo_asking_of_during {delay : Nat} {outcome : Outcome Bool}
    (reply : p.reply k = .after delay outcome) (lasts : p.During (p.start k + delay))
    (late : p.deadline ≤ limit) :
    (asking lookup positive tx o k).runTo lookup limit =
      match verdict? outcome with
      | some verdict => ended lookup p tx o (k + 1) verdict (p.start k + delay)
      | none => (resting lookup positive tx o (k + 1)).runTo lookup limit := by
  have next : (Wait.asking positive tx k).next = .answer (p.start k + delay) outcome :=
    (Wait.next_asking reply).trans (if_pos lasts.1)
  have due : (Wait.asking positive tx k).due = p.start k + delay :=
    congrArg Wait.Next.instant next
  have clock : max (p.start k) (p.start k + delay) = p.start k + delay :=
    Nat.max_eq_right (Nat.le_add_right _ _)
  rw [runTo_of_lasting (v := asking lookup positive tx o k) rfl (due ▸ lasts.2)
    (due ▸ Nat.le_trans lasts.1 late), due]
  dsimp only [asking]
  rw [clock]
  -- Only a failure is counted.
  rcases outcome with (_ | _) | f | text
  · have quiet : p.fails k = false := by simp only [Prospect.fails, reply]
    rw [Wait.fire_settled next, ← Prospect.looked_succ _ quiet]
    exact runTo_of_over rfl
  · have quiet : p.fails k = false := by simp only [Prospect.fails, reply]
    rw [Wait.fire_pending next, ← Prospect.looked_succ _ quiet]
    dsimp only [verdict?, resting, Wait.resting]
    rw [Prospect.rested_succ reply]
    rfl
  · have failed : p.fails k = true := by simp only [Prospect.fails, reply, lasts, decide_true]
    rw [Wait.fire_failure next]
    dsimp only [Wait.asking, verdict?, resting, Wait.resting]
    rw [Prospect.measure_looked _ failed, Prospect.rested_succ reply]
  · have quiet : p.fails k = false := by simp only [Prospect.fails, reply]
    rw [Wait.fire_crash next, ← Prospect.looked_succ _ quiet]
    exact runTo_of_over rfl

-- A wait that rests is cut off if it does not last until the next tick.
theorem runTo_resting_of_not_during (began : p.During (p.rested k))
    (past : ¬p.During (p.start k)) (late : p.deadline ≤ limit) :
    ∃ verdict i, p.Cut verdict i ∧
      (resting lookup positive tx o k).runTo lookup limit =
        Watch.ended lookup p tx o k verdict i := by
  refine runTo_of_cut (v := resting lookup positive tx o k) rfl rfl rfl rfl
    (Prospect.now_le_rested k) began ?_ late
  rw [Wait.due, Wait.next_resting]
  by_cases early : p.start k ≤ p.deadline
  · rw [if_pos early]
    exact Or.inr past
  · rw [if_neg early]
    exact Or.inl ⟨_, rfl⟩

-- A wait that asks is cut off if it does not last until the answer.
theorem runTo_asking_of_not_during (began : p.During (p.start k))
    (past : ∀ delay outcome, p.reply k = .after delay outcome → ¬p.During (p.start k + delay))
    (late : p.deadline ≤ limit) :
    ∃ verdict i, p.Cut verdict i ∧
      (asking lookup positive tx o k).runTo lookup limit =
        Watch.ended lookup p tx o (k + 1) verdict i := by
  -- Even if the answer is a failure, it is not counted.
  have quiet : p.fails k = false := by
    unfold Prospect.fails
    split
    · rename_i delay f reply
      exact decide_eq_false (past delay _ reply)
    · rfl
  unfold Watch.ended
  rw [Prospect.looked_succ _ quiet]
  refine runTo_of_cut (v := asking lookup positive tx o k) rfl rfl rfl rfl
    (Prospect.now_le_start k) began ?_ late
  rcases reply : p.reply k with ⟨delay, outcome⟩ | _
  · rw [Wait.due, Wait.next_asking reply]
    by_cases early : p.start k + delay ≤ p.deadline
    · rw [if_pos early]
      exact Or.inr (past delay outcome reply)
    · rw [if_neg early]
      exact Or.inl ⟨_, rfl⟩
  · exact Or.inl ⟨_, Wait.next_asking_of_never reply⟩

/-- The run of a wait to its end, from where it has got so many answers. -/
theorem runTo_resting (replies : p.reply = Replies.reply (lookup tx.chain tx.hash) o.world)
    (late : p.deadline ≤ limit) (k : Nat) (reached : p.Reached k) (began : p.During (p.rested k)) :
    ∃ verdict i asked, p.Concludes verdict i ∧ p.Asks asked ∧
      (resting lookup positive tx o k).runTo lookup limit =
        ended lookup p tx o asked verdict i := by
  by_cases lasts : p.During (p.start k)
  · rw [runTo_resting_of_during replies lasts late]
    by_cases soon : ∃ delay outcome, p.reply k = .after delay outcome ∧
      p.During (p.start k + delay)
    · rcases soon with ⟨delay, outcome, reply, inside⟩
      rw [runTo_asking_of_during reply inside late]
      rcases ends : verdict? outcome with _ | verdict
      · exact runTo_resting replies late (k + 1) (reached.succ reply ends)
          (Prospect.rested_succ reply ▸ inside)
      · refine ⟨verdict, _, k + 1, .answered ⟨k, delay, outcome, reached, reply, ends, rfl⟩ inside,
          reached.asks_succ lasts fun d q again goes => ?_, rfl⟩
        rw [reply] at again
        cases again
        exact absurd (goes.symm.trans ends) (by simp)
    · have alone : ∀ delay outcome, p.reply k = .after delay outcome →
          ¬p.During (p.start k + delay) := fun delay outcome reply inside =>
        soon ⟨delay, outcome, reply, inside⟩
      rcases runTo_asking_of_not_during lasts alone late with ⟨verdict, i, cut, run⟩
      exact ⟨verdict, i, k + 1, .cut (reached.lasting_of_answer alone) cut,
        reached.asks_succ lasts fun delay outcome reply _ => alone delay outcome reply, run⟩
  · rcases runTo_resting_of_not_during began lasts late with ⟨verdict, i, cut, run⟩
    exact ⟨verdict, i, k, .cut (reached.lasting_of_start lasts) cut, reached.asks began lasts, run⟩
termination_by p.deadline + 1 - p.scheduled k
decreasing_by
  -- There are no ticks after the deadline.
  have forward := Prospect.scheduled_lt positive k
  have early := Nat.le_trans (Prospect.scheduled_le_start k) lasts.1
  omega

variable (lookup) in
-- A wait that begins after the shutdown is over at once.
theorem begin_eq_over {plan : Plan} {now s : Nat} {shutdown : Option Nat} (stops : s ∈ shutdown)
    (before : s ≤ now) (reply : Nat → Reply Bool) :
    begin plan now shutdown tx o =
      ended lookup ⟨plan, now, shutdown, reply⟩ tx o 0 .settled now := by
  have stopped : shutdown.any (· ≤ now) = true := by simp [Option.mem_def.mp stops, before]
  unfold begin
  rw [if_pos stopped]
  rfl

variable (lookup) in
-- Any other wait begins to rest.
theorem begin_eq_resting {plan : Plan} {now : Nat} {shutdown : Option Nat}
    (running : ∀ s ∈ shutdown, now < s) (positive : 0 < plan.interval) (reply : Nat → Reply Bool) :
    begin plan now shutdown tx o =
      resting lookup (p := ⟨plan, now, shutdown, reply⟩) positive tx o 0 := by
  have goes : shutdown.any (· ≤ now) = false := by
    cases shutdown with
    | none => rfl
    | some s => simpa using running s rfl
  unfold begin
  rw [goes, dif_pos positive]
  rfl

/-- The run of a wait to its end. -/
theorem runTo_begin (lookup : Lookup σ) (plan : Plan) (positive : 0 < plan.interval) (now : Nat)
    (shutdown : Option Nat) (tx : Submitted) (o : Surroundings σ) :
    let p : Prospect := ⟨plan, now, shutdown, Replies.reply (lookup tx.chain tx.hash) o.world⟩
    ∃ verdict i asked, p.Concludes verdict i ∧ p.Asks asked ∧
      (begin plan now shutdown tx o).runTo lookup p.deadline =
        ended lookup p tx o asked verdict i := by
  intro p
  by_cases stop : ∃ s ∈ shutdown, s ≤ now
  · rcases stop with ⟨s, stops, before⟩
    have past {i : Nat} (late : now ≤ i) : ¬p.During i := fun lasts =>
      Nat.not_lt.mpr (Nat.le_trans before late) (lasts.2 s stops)
    have cut : p.Cut .settled (max s now) :=
      .stopped stops (Nat.le_trans before (Nat.le_add_right _ _))
    rw [Nat.max_eq_right before] at cut
    refine ⟨.settled, now, 0, .cut (fun v i ends => past ends.now_le) cut, fun k => ?_, ?_⟩
    · exact ⟨fun less => absurd less (Nat.not_lt_zero k),
        fun asked => absurd asked.2 (past (Prospect.now_le_start (p := p) k))⟩
    · rw [begin_eq_over lookup stops before p.reply]
      exact runTo_of_over rfl
  · have running : ∀ s ∈ shutdown, now < s := fun s stops =>
      Nat.not_le.mp fun before => stop ⟨s, stops, before⟩
    rw [begin_eq_resting lookup running positive p.reply]
    exact runTo_resting rfl (Nat.le_refl _) 0 (fun _ less => absurd less (Nat.not_lt_zero _))
      ⟨Nat.le_add_right _ _, running⟩

end Watch

/-- How and when a wait ends, whatever the replies to its lookups are. There is one way
    in which it can end, and it ends so at that instant and not before. It looks the
    transaction up as often as its prospect says, and the failures among the answers
    are counted for its chain and change nothing else: a failure of the wait is always
    that its own transaction is missing. -/
theorem outcome_of_wait (lookup : Lookup σ) (plan : Plan) (positive : 0 < plan.interval)
    (now : Nat) (shutdown : Option Nat) (tx : Submitted) (o : Surroundings σ) :
    let p : Prospect := ⟨plan, now, shutdown, Replies.reply (lookup tx.chain tx.hash) o.world⟩
    let watch := Watch.begin plan now shutdown tx o
    let errors := fun m : Metrics => m.pollErrors.value (toString tx.chain)
    ∃ verdict i asked, p.Concludes verdict i ∧
      (∀ other j, p.Concludes other j → other = verdict ∧ j = i) ∧
      (∀ k, k < asked ↔ p.Reached k ∧ p.During (p.start k)) ∧
      (∀ limit, i ≤ limit → watch.runTo lookup limit =
        ⟨i, shutdown, .inl verdict,
          { o.called (lookup tx.chain tx.hash) (.lookup tx.chain tx.hash) p.start asked with
            metrics := Nat.repeat (Metrics.recordPollError tx.chain) (p.failures asked)
              o.metrics }⟩) ∧
      (∀ limit, now ≤ limit → limit < i → ∃ w, (watch.runTo lookup limit).state = .inr w) ∧
      (∀ f, verdict.report tx = .failure f → f = .transactionMissing tx.hash) ∧
      (o.metrics.pollErrors.Sorted → errors o.metrics ≤ Counter.limit →
        ∀ limit, i ≤ limit → errors (watch.runTo lookup limit).outside.metrics =
          Counter.shown (errors o.metrics + p.failures asked)) := by
  intro p watch errors
  rcases Watch.runTo_begin lookup plan positive now shutdown tx o with
    ⟨verdict, i, asked, concludes, asks, run⟩
  have ends := (Watch.timed lookup).of_end run (fun _ => rfl) concludes.le_deadline
  refine ⟨verdict, i, asked, concludes, fun other j again => again.unique concludes, asks,
    ends.1, ?_, ?_, ?_⟩
  · intro limit early before
    refine Watch.under_way (ends.2 limit (Nat.le_trans (Nat.le_of_eq ?_) early) before)
    unfold Watch.begin
    rfl
  · intro f report
    cases verdict with
    | settled => exact absurd report (by simp [Verdict.report])
    | missing => exact (Outcome.failure.inj report).symm
    | crashed text => exact absurd report (by simp [Verdict.report])
  · intro sorted small limit late
    rw [show watch.runTo lookup limit = _ from ends.1 limit late]
    dsimp only [errors, Watch.ended]
    rw [Prospect.pollErrors_looked]
    exact Labelled.value_repeat_count _ sorted small

section Witness

/-- Answers to lookups, the first of which is a failure and comes late. -/
def late : Nat → Reply Bool
  | 0 => .after 1500 (.failure (.timeout "lookup"))
  | 1 => .after 0 (.value true)
  | _ => .after 30 (.value false)

/-- A wait with a lookup every second that gets these answers, at an instant. -/
def lateWatch (limit : Nat) : Watch Nat :=
  (Watch.begin ⟨1000, 5000⟩ 0 none ⟨1, .repeated 32 0⟩ (.fresh 0)).runTo
    (fun _ _ => Replies.inOrder late) limit

/-- The late answer moves the second lookup, and that moves the third. The wait is
    over with the answer to that one. -/
theorem outcome_of_late_answer :
    0 < 1000 ∧ (∃ w, (lateWatch 2529).state = .inr w) ∧ (lateWatch 2530).state = .inl .settled ∧
      (lateWatch 2530).outside.acts.map Prod.fst = [2500, 1500, 0] ∧
      (lateWatch 2530).outside.metrics.pollErrors.value (toString 1) = 1 := by
  obtain ⟨verdict, i, asked, -, only, asks, ends, under, -, errors⟩ :=
    outcome_of_wait (fun _ _ => Replies.inOrder late) ⟨1000, 5000⟩ (by decide) 0 none
      ⟨1, .repeated 32 0⟩ (.fresh 0)
  let p : Prospect := ⟨⟨1000, 5000⟩, 0, none, Replies.reply (Replies.inOrder late) 0⟩
  have reached : p.Reached 2 := by
    intro k less
    match k, less with
    | 0, _ => exact ⟨1500, _, rfl, rfl⟩
    | 1, _ => exact ⟨0, _, rfl, rfl⟩
  obtain ⟨rfl, rfl⟩ := only .settled 2530
    (.answered ⟨2, 30, .value false, reached, rfl, rfl, rfl⟩
      ⟨by decide, fun _ none => nomatch none⟩)
  obtain rfl : asked = 3 := by
    have two := (asks 2).mpr ⟨reached, by decide⟩
    refine Nat.le_antisymm (Nat.not_lt.mp fun more => ?_) two
    exact absurd (((asks 3).mp more).1.le_of_ends (k := 2) rfl rfl) (by decide)
  refine ⟨by decide, under 2529 (by decide) (by decide), ?_, ?_, ?_⟩
  · exact congrArg Watch.state (ends 2530 (Nat.le_refl _))
  · exact congrArg (fun w => w.outside.acts.map Prod.fst) (ends 2530 (Nat.le_refl _))
  · exact errors .nil (by decide) 2530 (Nat.le_refl _)

end Witness

end Confirmation

end TxRelay
