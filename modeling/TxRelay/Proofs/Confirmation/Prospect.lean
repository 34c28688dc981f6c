import TxRelay.Confirmation

/-!
# What a Wait Comes To

How a wait for confirmation ends follows from its pace and its limit, from when it
begins, from when the shutdown comes and from the replies to its lookups. A
`Prospect` is these together, and this module says what follows, without a wait
that runs.

The replies alone say when each lookup would begin, and when a lookup would end the
wait, if nothing else did. Then the limit and the shutdown come in. A wait lasts up
to its deadline, which is part of it, and up to the shutdown, which is not. If the
answer that ends it comes while it lasts, that is its end. Otherwise it is cut off,
by the shutdown or at the deadline.

## Main definitions

* `Confirmation.Prospect`: What a wait follows from.
* `Confirmation.Prospect.start`: When a lookup begins, if nothing ends the wait.
* `Confirmation.Prospect.Ends`: How an unlimited wait ends, and when.
* `Confirmation.Prospect.Concludes`: How a wait ends, and when.
* `Confirmation.Prospect.failures`: How many lookups failed while the wait lasted.

## Theorems

* `Confirmation.Prospect.scheduled_lt`: Ticks go on for ever.
* `Confirmation.Prospect.Ends.unique`: A lookup that ends a wait is the last one.
* `Confirmation.Prospect.Concludes.unique`: A wait ends in one way.
-/

namespace TxRelay

namespace Confirmation

/-- How the answer to a lookup ends the wait, if it does. -/
def verdict? : Outcome Bool → Option Verdict
  | .value false => some .settled
  | .crash text => some (.crashed text)
  | .value true => none
  | .failure _ => none

/-- What the course of a wait follows from. -/
structure Prospect where
  /-- The pace and the limit. -/
  plan : Plan
  /-- When the wait begins. -/
  now : Nat
  /-- When the shutdown comes, if it comes. -/
  shutdown : Option Nat
  /-- The replies to the lookups, counted from zero. -/
  reply : Nat → Reply Bool

namespace Prospect

variable (p : Prospect)

/-- The instant at which the wait gives up. -/
def deadline : Nat :=
  p.now + p.plan.limit

/-- How long a lookup takes. No other follows one that is never answered. -/
def span (k : Nat) : Nat :=
  match p.reply k with
  | .after delay _ => delay
  | .never => 0

/-- For when the tick before a lookup is scheduled, and when it is taken, if
    nothing ends the wait before. -/
def tick : Nat → Nat × Nat
  | 0 => (p.now, p.now)
  | k + 1 =>
    let scheduled := nextTick p.plan.interval (tick k).1 (tick k).2
    (scheduled, max scheduled ((tick k).2 + p.span k))

/-- For when the tick before a lookup is scheduled. -/
def scheduled (k : Nat) : Nat :=
  (p.tick k).1

/-- When a lookup begins: as soon as its tick is due and the lookup before it is
    answered. -/
def start (k : Nat) : Nat :=
  (p.tick k).2

/-- When so many lookups are answered. -/
def rested : Nat → Nat
  | 0 => p.now
  | k + 1 => p.start k + p.span k

/-- So many lookups are answered, and none of the answers ends the wait. -/
def Reached (n : Nat) : Prop :=
  ∀ k, k < n → ∃ delay outcome, p.reply k = .after delay outcome ∧ verdict? outcome = none

/-- An answer ends the wait at an instant, if nothing else ends it before. -/
def Ends (verdict : Verdict) (i : Nat) : Prop :=
  ∃ k delay outcome, p.Reached k ∧ p.reply k = .after delay outcome ∧
    verdict? outcome = some verdict ∧ i = p.start k + delay

/-- The wait lasts at an instant, unless an answer has ended it: it is not past the
    deadline, and the shutdown is still to come. -/
def During (i : Nat) : Prop :=
  i ≤ p.deadline ∧ ∀ s ∈ p.shutdown, i < s

instance (i : Nat) : Decidable (p.During i) :=
  inferInstanceAs (Decidable (_ ∧ ∀ s ∈ p.shutdown, i < s))

/-- The wait makes so many lookups: those that are reached and begin while it lasts. -/
def Asks (n : Nat) : Prop :=
  ∀ k, k < n ↔ p.Reached k ∧ p.During (p.start k)

/-- How a wait ends that no answer ends. A shutdown that came before the wait ends it
    as it begins. -/
inductive Cut : Verdict → Nat → Prop where
  /-- The shutdown comes. -/
  | stopped {s : Nat} (stops : s ∈ p.shutdown) (soon : s ≤ p.deadline) :
      Cut .settled (max s p.now)
  /-- The limit is reached. -/
  | missing (running : ∀ s ∈ p.shutdown, p.deadline < s) : Cut .missing p.deadline

/-- How a wait ends, and when. -/
inductive Concludes : Verdict → Nat → Prop where
  /-- An answer ends it while it lasts. -/
  | answered {verdict : Verdict} {i : Nat} (ends : p.Ends verdict i) (inside : p.During i) :
      Concludes verdict i
  /-- It is cut off before an answer ends it. -/
  | cut {verdict : Verdict} {i : Nat} (lasting : ∀ v j, p.Ends v j → ¬p.During j)
      (cut : p.Cut verdict i) : Concludes verdict i

/-- A lookup fails while the wait lasts. -/
def fails (k : Nat) : Bool :=
  match p.reply k with
  | .after delay (.failure _) => p.During (p.start k + delay)
  | _ => false

/-- How many of the first lookups fail while the wait lasts. -/
def failures (n : Nat) : Nat :=
  (List.range n).countP p.fails

variable {p}

section Schedule

theorem start_eq (k : Nat) : p.start k = max (p.scheduled k) (p.rested k) := by
  cases k with
  | zero => exact (Nat.max_self p.now).symm
  | succ k => rfl

theorem rested_le_start (k : Nat) : p.rested k ≤ p.start k :=
  start_eq k ▸ Nat.le_max_right _ _

theorem start_le_rested {j k : Nat} (less : j < k) : p.start j ≤ p.rested k := by
  induction less with
  | refl => exact Nat.le_add_right _ _
  | step _ ih => exact Nat.le_trans ih (Nat.le_trans (rested_le_start _) (Nat.le_add_right _ _))

theorem start_le {j k : Nat} (le : j ≤ k) : p.start j ≤ p.start k := by
  rcases Nat.lt_or_eq_of_le le with less | rfl
  · exact Nat.le_trans (start_le_rested less) (rested_le_start k)
  · exact Nat.le_refl _

theorem now_le_start (k : Nat) : p.now ≤ p.start k :=
  start_le (Nat.zero_le k)

theorem now_le_rested (k : Nat) : p.now ≤ p.rested k := by
  cases k with
  | zero => exact Nat.le_refl _
  | succ k => exact Nat.le_trans (now_le_start k) (Nat.le_add_right _ _)

theorem scheduled_le_start (k : Nat) : p.scheduled k ≤ p.start k :=
  start_eq k ▸ Nat.le_max_left _ _

/-- Ticks go on for ever. -/
theorem scheduled_lt (positive : 0 < p.plan.interval) (k : Nat) :
    p.scheduled k < p.scheduled (k + 1) :=
  lt_nextTick positive _ _

end Schedule

theorem During.mono {i j : Nat} (inside : p.During j) (le : i ≤ j) : p.During i :=
  ⟨Nat.le_trans le inside.1, fun s stops => Nat.lt_of_le_of_lt le (inside.2 s stops)⟩

theorem Ends.now_le {verdict : Verdict} {i : Nat} (ends : p.Ends verdict i) : p.now ≤ i := by
  rcases ends with ⟨k, delay, outcome, -, -, -, rfl⟩
  exact Nat.le_trans (now_le_start k) (Nat.le_add_right _ _)

/-- A lookup that ends a wait is the last one. -/
theorem Reached.le_of_ends {k n : Nat} {delay : Nat} {outcome : Outcome Bool} {verdict : Verdict}
    (reached : p.Reached n) (reply : p.reply k = .after delay outcome)
    (ends : verdict? outcome = some verdict) : n ≤ k := by
  refine Nat.not_lt.mp fun less => ?_
  rcases reached k less with ⟨d, o, again, goes⟩
  rw [reply] at again
  cases again
  exact absurd (ends.symm.trans goes) (by simp)

section Reached

variable {k delay : Nat} {outcome : Outcome Bool}

theorem rested_succ (reply : p.reply k = .after delay outcome) :
    p.rested (k + 1) = p.start k + delay := by
  rw [rested, span, reply]

theorem Reached.succ (reached : p.Reached k) (reply : p.reply k = .after delay outcome)
    (goes : verdict? outcome = none) : p.Reached (k + 1) := by
  intro j less
  rcases Nat.lt_succ_iff_lt_or_eq.mp less with earlier | rfl
  · exact reached j earlier
  · exact ⟨delay, outcome, reply, goes⟩

-- A lookup that is reached does not begin before the one in front of it is answered.
theorem Reached.answer_le_start {j : Nat} (reached : p.Reached j) (less : k < j) :
    ∃ delay outcome, p.reply k = .after delay outcome ∧ verdict? outcome = none ∧
      p.start k + delay ≤ p.start j := by
  rcases reached k less with ⟨delay, outcome, reply, goes⟩
  refine ⟨delay, outcome, reply, goes, ?_⟩
  rw [← rested_succ reply]
  exact Nat.le_trans (rested_le_start (k + 1)) (start_le less)

-- A wait that does not last until it asks again is not ended by an answer.
theorem Reached.lasting_of_start (reached : p.Reached k) (past : ¬p.During (p.start k))
    (verdict : Verdict) (i : Nat) (ends : p.Ends verdict i) : ¬p.During i := by
  rcases ends with ⟨j, d, o, -, reply, last, rfl⟩
  have le : k ≤ j := reached.le_of_ends reply last
  exact fun inside => past (inside.mono (Nat.le_trans (start_le le) (Nat.le_add_right _ _)))

-- Nor is a wait that does not last until it gets its answer.
theorem Reached.lasting_of_answer (reached : p.Reached k)
    (past : ∀ delay outcome, p.reply k = .after delay outcome → ¬p.During (p.start k + delay))
    (verdict : Verdict) (i : Nat) (ends : p.Ends verdict i) : ¬p.During i := by
  rcases ends with ⟨j, d, o, rereached, reply, last, rfl⟩
  rcases Nat.lt_or_eq_of_le (reached.le_of_ends reply last) with less | rfl
  · rcases rereached.answer_le_start less with ⟨e, q, before, -, le⟩
    exact fun inside =>
      past e q before (inside.mono (Nat.le_trans le (Nat.le_add_right _ _)))
  · exact past d o reply

-- A wait that does not last until it asks again has made its lookups.
theorem Reached.asks (reached : p.Reached k) (began : p.During (p.rested k))
    (past : ¬p.During (p.start k)) : p.Asks k := by
  intro j
  constructor
  · intro less
    exact ⟨fun i before => reached i (Nat.lt_trans before less), began.mono (start_le_rested less)⟩
  · rintro ⟨-, lasts⟩
    exact Nat.not_le.mp fun le => past (lasts.mono (start_le le))

-- So has a wait that does not last until an answer with which it would go on.
theorem Reached.asks_succ (reached : p.Reached k) (lasts : p.During (p.start k))
    (past : ∀ delay outcome, p.reply k = .after delay outcome → verdict? outcome = none →
      ¬p.During (p.start k + delay)) : p.Asks (k + 1) := by
  intro j
  constructor
  · intro less
    have le : j ≤ k := Nat.le_of_lt_succ less
    exact ⟨fun i before => reached i (Nat.lt_of_lt_of_le before le), lasts.mono (start_le le)⟩
  · rintro ⟨rereached, relasts⟩
    refine Nat.lt_succ_of_le (Nat.not_lt.mp fun less => ?_)
    rcases rereached.answer_le_start less with ⟨d, o, reply, goes, le⟩
    exact past d o reply goes (relasts.mono le)

end Reached

theorem Ends.unique {v w : Verdict} {i j : Nat} (ends : p.Ends v i) (again : p.Ends w j) :
    v = w ∧ i = j := by
  rcases ends with ⟨k, d, o, reached, reply, last, rfl⟩
  rcases again with ⟨l, e, q, rereached, rereply, relast, rfl⟩
  obtain rfl : k = l :=
    Nat.le_antisymm (reached.le_of_ends rereply relast) (rereached.le_of_ends reply last)
  rw [reply] at rereply
  cases rereply
  exact ⟨Option.some.inj (last.symm.trans relast), rfl⟩

theorem Cut.unique {v w : Verdict} {i j : Nat} (cut : p.Cut v i) (again : p.Cut w j) :
    v = w ∧ i = j := by
  cases cut with
  | stopped stops soon =>
    cases again with
    | stopped restops => exact ⟨rfl, by rw [Option.mem_unique stops restops]⟩
    | missing running => exact absurd soon (Nat.not_le.mpr (running _ stops))
  | missing running =>
    cases again with
    | stopped stops soon => exact absurd soon (Nat.not_le.mpr (running _ stops))
    | missing => exact ⟨rfl, rfl⟩

/-- A wait ends in one way. -/
theorem Concludes.unique {v w : Verdict} {i j : Nat} (one : p.Concludes v i)
    (other : p.Concludes w j) : v = w ∧ i = j := by
  cases one with
  | answered ends inside =>
    cases other with
    | answered again => exact ends.unique again
    | cut lasting => exact absurd inside (lasting _ _ ends)
  | cut lasting cut =>
    cases other with
    | answered ends inside => exact absurd inside (lasting _ _ ends)
    | cut _ again => exact cut.unique again

/-- A wait is over at its deadline, and not before it begins. -/
theorem Concludes.le_deadline {v : Verdict} {i : Nat} (ends : p.Concludes v i) :
    i ≤ p.deadline := by
  cases ends with
  | answered _ inside => exact inside.1
  | cut _ cut =>
    cases cut with
    | stopped _ soon => exact Nat.max_le.mpr ⟨soon, Nat.le_add_right _ _⟩
    | missing => exact Nat.le_refl _

theorem failures_succ (n : Nat) :
    p.failures (n + 1) = p.failures n + if p.fails n then 1 else 0 := by
  unfold failures
  rw [List.range_succ, List.countP_append, List.countP_singleton]

end Prospect

end Confirmation

end TxRelay
