import Mathlib.Data.List.Basic
import TxRelay.Proofs.Queue.Refinement

/-!
# What There Is to See of a Schedule

A queue that keeps to its schedule shows it: what is on record is what the schedule
says, up to some instant, and what lies ahead in the schedule lies ahead of that
instant.

In the middle of an instant some of what the schedule has for it is done and some is
not, so the record goes up to now and what lies ahead is not before now. When nothing
more can happen at that instant, what lies ahead is later.

What the worker has not reached lies ahead. The submission in flight has its next step
later, those behind it wait for its answer, and those in line wait for a place, which
becomes free when one of the others is taken up. The proof is by induction on the
place in the schedule, for starts and acceptances at once.

## Main definitions

* `Queue.State.Through`: Everything happened that can happen before an instant.
* `Queue.Kept`: A record that keeps to a plan.
* `Queue.Matches`: What there is to see of a queue is what its schedule says.

## Theorems

* `Queue.Kept.eq_upTo`: A record that is complete is the plan up to now.
* `Queue.Tracks.late`: What the worker has not reached lies ahead.
* `Queue.Tracks.matches_`: A queue that keeps to its schedule matches it.
* `Queue.Tracks.not_doomed`: It is not lost to a crash.
-/

namespace TxRelay

namespace Queue

variable {σ : Type} {q : Setup σ} {world : σ} {a : Agenda} {k limit now : Nat} {s : State σ}

/-- Everything happened that can happen before an instant. Time does not pass before that,
    so all of the past is through, and now is when nothing more can happen now. -/
def State.Through (q : Setup σ) (limit : Nat) (s : State σ) : Prop :=
  limit ≤ s.now ∨ (limit = s.now + 1 ∧ s.work? q s.now = none ∧ s.granted = 0)

/-- What happened up to an instant. -/
def upTo {α : Type} (now : Nat) (l : List (Nat × α)) : List (Nat × α) :=
  l.filter fun x => x.1 ≤ now

/-- A record that keeps to a plan, the latest first. -/
structure Kept {α : Type} (limit now : Nat) (record plan : List (Nat × α)) : Prop where
  /-- What is planned was done, or lies ahead. -/
  ahead : ∃ more, plan = more ++ record ∧ ∀ x ∈ more, limit ≤ x.1
  /-- What was done was done by now. -/
  past : ∀ x ∈ record, x.1 ≤ now

/-- What there is to see of a queue is what its schedule says: everything before a
    limit, nothing after its clock, and nothing else. -/
structure Matches (q : Setup σ) (world : σ) (a : Agenda) (limit : Nat) (s : State σ) : Prop where
  /-- Submissions are accepted when the schedule says. -/
  accepted : Kept limit s.now s.acceptances (allAcceptances (a.rows q world))
  /-- Send operations begin, and attempts and lookups are made, when the schedule
      says. -/
  acts : Kept limit s.now s.outside.acts (allActs (a.rows q world))
  /-- Submissions are answered when and how the schedule says. -/
  answers : Kept limit s.now s.answers (allAnswers (a.rows q world))
  /-- Nobody is turned away. -/
  unrejected : s.rejected = []
  /-- The worker goes away at the end of its work, and for no other reason. -/
  ended : ∀ how, s.stage = .ended how →
    how = .finished ∧ ∃ x, a.ending q world = some x ∧ x ≤ s.now
  /-- It is gone when its work is over. -/
  gone : ∀ x, a.ending q world = some x → x < limit → s.stage = .ended .finished
  /-- Then every submission was answered. -/
  processed : ∀ x, a.ending q world = some x →
    ∀ r ∈ a.rows q world, ∃ i, r.answered = some i ∧ i ≤ x

section Kept

/-- A record that is complete is the plan up to now. -/
theorem Kept.eq_upTo {α : Type} {record plan : List (Nat × α)}
    (kept : Kept (now + 1) now record plan) : record = upTo now plan := by
  rcases kept.ahead with ⟨more, rfl, late⟩
  unfold upTo
  rw [List.filter_append, List.filter_eq_nil_iff.mpr, List.filter_eq_self.mpr, List.nil_append]
  · intro x mem
    exact decide_eq_true (kept.past x mem)
  · intro x mem
    have := late x mem
    rw [decide_eq_true_iff]
    omega

-- The rows from one on come before those up to it.
theorem flatMap_append_reverse {α : Type} (f : Row σ → List α) (rows more : List (Row σ)) :
    (rows ++ more).reverse.flatMap f = more.reverse.flatMap f ++ rows.reverse.flatMap f := by
  rw [List.reverse_append, List.flatMap_append]

theorem answered_of_answer? {r : Row σ} {x : Nat × Nat × Response} (answer : r.answer? = some x) :
    r.answered = some x.1 := by
  unfold Row.answer? at answer
  unfold Row.answered
  split at answer
  · rename_i close
    rw [← Option.some.inj answer]
  · exact absurd answer (by simp only [reduceCtorEq, not_false_eq_true])

theorem accepted_of_acceptance? {r : Row σ} {x : Nat × Nat} (acceptance : r.acceptance? = some x) :
    r.accepted = some x.1 := by
  rcases Option.map_eq_some_iff.mp acceptance with ⟨i, accepted, same⟩
  rw [accepted, ← same]

theorem getElem?_of_mem_take {rows : List (Row σ)} {r : Row σ} (mem : r ∈ rows.take k) :
    ∃ i, i < k ∧ rows[i]? = some r := by
  rcases List.getElem?_of_mem mem with ⟨i, here⟩
  rw [List.getElem?_take] at here
  by_cases before : i < k
  · rw [if_pos before] at here
    exact ⟨i, before, here⟩
  · rw [if_neg before] at here
    exact absurd here (by simp only [reduceCtorEq, not_false_eq_true])

theorem getElem?_of_mem_drop {rows : List (Row σ)} {r : Row σ} (mem : r ∈ rows.drop k) :
    ∃ i, k ≤ i ∧ rows[i]? = some r := by
  rcases List.getElem?_of_mem mem with ⟨i, here⟩
  rw [List.getElem?_drop] at here
  exact ⟨k + i, Nat.le_add_right k i, here⟩

variable {α : Type} {rows : List (Row σ)} (k : Nat)

-- What the rows before one say was done, and what the others say lies ahead.
theorem Kept.of_flatMap {f : Row σ → List (Nat × α)}
    (ahead : ∀ i r, k ≤ i → rows[i]? = some r → ∀ x ∈ f r, limit ≤ x.1)
    (past : ∀ i r, i < k → rows[i]? = some r → ∀ x ∈ f r, x.1 ≤ now) :
    Kept limit now ((rows.take k).reverse.flatMap f) (rows.reverse.flatMap f) := by
  have split := flatMap_append_reverse f (rows.take k) (rows.drop k)
  rw [List.take_append_drop] at split
  refine ⟨⟨_, split, ?_⟩, ?_⟩
  · intro x mem
    rcases List.mem_flatMap.mp mem with ⟨r, row, entry⟩
    rcases getElem?_of_mem_drop (List.mem_reverse.mp row) with ⟨i, behind, here⟩
    exact ahead i r behind here x entry
  · intro x mem
    rcases List.mem_flatMap.mp mem with ⟨r, row, entry⟩
    rcases getElem?_of_mem_take (List.mem_reverse.mp row) with ⟨i, before, here⟩
    exact past i r before here x entry

-- The same for what a row says once.
theorem Kept.of_filterMap {f : Row σ → Option (Nat × α)}
    (ahead : ∀ i r, k ≤ i → rows[i]? = some r → Late limit ((f r).map Prod.fst))
    (past : ∀ i r, i < k → rows[i]? = some r → ∀ x, f r = some x → x.1 ≤ now) :
    Kept limit now ((rows.take k).reverse.filterMap f) (rows.reverse.filterMap f) := by
  rw [List.filterMap_eq_flatMap_toList, List.filterMap_eq_flatMap_toList]
  refine .of_flatMap k ?_ ?_
  · intro i r behind here x mem
    refine ahead i r behind here x.1 ?_
    rw [Option.mem_toList.mp mem]
    rfl
  · intro i r before here x mem
    exact past i r before here x (Option.mem_toList.mp mem)

theorem Kept.answers (ahead : ∀ i r, k ≤ i → rows[i]? = some r → Late limit r.answered)
    (past : ∀ i r, i < k → rows[i]? = some r → ∃ t, r.answered = some t ∧ t ≤ now) :
    Kept limit now (allAnswers (rows.take k)) (allAnswers rows) := by
  refine .of_filterMap k ?_ ?_
  · intro i r behind here t same
    rcases Option.map_eq_some_iff.mp same with ⟨x, answer, rfl⟩
    exact ahead i r behind here x.1 (answered_of_answer? answer)
  · intro i r before here x answer
    rcases past i r before here with ⟨t, answered, le⟩
    rw [Option.some.inj ((answered_of_answer? answer).symm.trans answered)]
    exact le

theorem Kept.acceptances (ahead : ∀ i r, k ≤ i → rows[i]? = some r → Late limit r.accepted)
    (past : ∀ i r, i < k → rows[i]? = some r → ∃ t, r.accepted = some t ∧ t ≤ now) :
    Kept limit now (allAcceptances (rows.take k)) (allAcceptances rows) := by
  refine .of_filterMap k ?_ ?_
  · intro i r behind here t same
    rcases Option.map_eq_some_iff.mp same with ⟨x, acceptance, rfl⟩
    exact ahead i r behind here x.1 (accepted_of_acceptance? acceptance)
  · intro i r before here x acceptance
    rcases past i r before here with ⟨t, accepted, le⟩
    rw [Option.some.inj ((accepted_of_acceptance? acceptance).symm.trans accepted)]
    exact le

end Kept

-- What was done for a submission that was answered was done by then.
theorem acts_of_answered {i t : Nat} {r : Row σ} (here : (a.rows q world)[i]? = some r)
    (answered : r.answered = some t) (soon : t ≤ now) : ∀ x ∈ r.course.acts, x.1 ≤ now := by
  intro x mem
  have serial := serial_schedule q world a.started a.calls
  exact Nat.le_trans (serial.within r (List.mem_of_getElem? here) t answered x mem) soon

-- When a submission is taken up.
theorem Agenda.start_eq {i : Nat} {r : Row σ} (here : (a.rows q world)[i]? = some r) :
    r.start = latest a.started (latest r.accepted (lastAnswer ((a.rows q world).take i))) := by
  rcases a.next_of_row here with ⟨call, -, -, rfl⟩
  exact Row.start_next ..

-- Nothing is done for a submission before it is taken up.
theorem Agenda.ahead_of_late {i : Nat} {r : Row σ} (here : (a.rows q world)[i]? = some r)
    (late : Late limit r.start) : r.Ahead limit := by
  rcases a.next_of_row here with ⟨call, -, -, rfl⟩
  exact Row.ahead_next late

namespace State.Through

-- While an entry can be taken, now is not through.
theorem le_of_stored (through : s.Through q limit) (idle : s.stage = .idle)
    (stored : 0 < s.buffer.length) : limit ≤ s.now := by
  rcases through with early | ⟨-, rest, granted⟩
  · exact early
  · rw [((Rest.of_work? granted rest).idle idle).1] at stored
    exact absurd stored (Nat.lt_irrefl 0)

-- While a place is on its way, now is not through.
theorem le_of_room (through : s.Through q limit) (p : Spaced q s) (waits : s.waiters ≠ [])
    (room : s.buffer.length < q.places) : limit ≤ s.now := by
  rcases through with early | ⟨-, -, granted⟩
  · exact early
  · have full := p.full
    unfold State.depth at full
    rw [granted] at full
    have taken := full (List.length_pos_iff.mpr waits)
    omega

end State.Through

-- What is left of the submission in flight lies ahead.
theorem Flying.ahead {j : Nat} {own : Surroundings σ} {row : Row σ}
    (f : Flying q world a j own row s) (through : s.Through q limit) :
    (∃ more, row.course.acts = more ++ own.acts ∧ ∀ x ∈ more, limit ≤ x.1) ∧
      Late limit row.course.close.instant? := by
  have due (i : Nat) (next : s.stage.due? = some i) : max s.now limit ≤ i := by
    have soon := f.punctual i next
    rcases through with early | ⟨now, rest, -⟩
    · omega
    · have later := State.lt_due_of_rest rest next
      omega
  have tidy := Course.tidy_ofStage q own (Nat.le_max_left s.now limit) due f.timely
  rw [f.course] at tidy
  rcases tidy with ⟨e, later, ⟨more, record, -, times⟩, close⟩
  refine ⟨⟨more, record, fun x mem => ?_⟩, fun i ends => ?_⟩
  · exact Nat.le_trans (Nat.le_max_right _ _) (times x mem).1
  · rw [close i ends]
    exact Nat.le_trans (Nat.le_max_right _ _) later

namespace Tracks

-- Somebody who waits in line is accepted when a place becomes free.
theorem late_accepted (h : Tracks q world a k s) (p : Spaced q s) (through : s.Through q limit)
    {i : Nat} {r : Row σ} (behind : k + s.buffer.length ≤ i)
    (here : (a.rows q world)[i]? = some r)
    (before : ∀ j r, j < i → k ≤ j → (a.rows q world)[j]? = some r → Late limit r.start) :
    Late limit r.accepted := by
  have amount := h.line.amount
  have bound := a.lt_of_row here
  have positive := q.places_pos
  have waits : s.waiters ≠ [] := by
    intro nobody
    rw [nobody, List.length_nil] at amount
    omega
  have full := h.line.waited waits
  rcases a.exists_row q world (i := i - q.places) (by omega) with ⟨first, there⟩
  rcases a.accepted_of_full (by omega) here there with ⟨call, asked, accepted⟩
  rw [accepted]
  by_cases taken : i - q.places < k
  · -- The place was given up already, and is on its way.
    have early := through.le_of_room p waits (by omega)
    intro t both
    rcases latest_eq_some.mp both with ⟨x, y, asks, start, later⟩
    rcases Nat.lt_or_ge call.asked s.now with earlier | now
    · have mem : call ∈ a.calls.drop (k + s.buffer.length) := by
        refine List.mem_of_getElem? (i := i - (k + s.buffer.length)) ?_
        rw [List.getElem?_drop, Nat.add_sub_cancel' behind]
        exact asked
      have recent := h.line.recent call mem earlier _ first taken (by omega) there
      have same := Option.some.inj (start.symm.trans recent)
      omega
    · have same := Option.some.inj asks
      omega
  · exact late_latest_right _ (before _ first (by omega) (by omega) there)

-- What is stored is taken up when the one before it is answered.
theorem late_start (h : Tracks q world a k s) (through : s.Through q limit)
    {i : Nat} {r : Row σ} (behind : k ≤ i) (stored : i < k + s.buffer.length)
    (here : (a.rows q world)[i]? = some r)
    (before : ∀ j r, j < i → k ≤ j → (a.rows q world)[j]? = some r → Late limit r.start) :
    Late limit r.start := by
  have bound := a.lt_of_row here
  -- If the one before it was not taken up either, it is answered later.
  have next (m : Nat) (same : i = m + 1) (late : k ≤ m) : Late limit r.start := by
    subst same
    rcases getElem?_before here with ⟨r', there⟩
    have ahead := a.ahead_of_late there (before m r' (Nat.lt_succ_self m) late there)
    rw [a.start_eq here, lastAnswer_take_succ there]
    exact late_latest_right _ (late_latest_right _ ahead.answered)
  cases h.work with
  | unstarted _ started _ _ =>
    rw [a.start_eq here, started]
    exact fun t both => absurd both (by simp only [latest, reduceCtorEq, not_false_eq_true])
  | ended _ whole _ _ _ => omega
  | idle stage _ _ _ first _ =>
    by_cases same : i = k
    · subst same
      have early := through.le_of_stored stage (by omega)
      rw [first r (by omega) here]
      exact fun t now => Option.some.inj now ▸ early
    · exact next (i - 1) (by omega) (by omega)
  | @flying w j own row taken _ _ f =>
    by_cases same : i = k
    · rw [same, taken] at here
      rw [a.start_eq here, lastAnswer_take_succ f.here]
      refine late_latest_right _ (late_latest_right _ fun t answered => ?_)
      exact (f.ahead through).2 t (Row.instant?_of_answered answered)
    · exact next (i - 1) (by omega) (by omega)

/-- What the worker has not reached lies ahead, and so does the acceptance of those in
    line. -/
theorem late (h : Tracks q world a k s) (p : Spaced q s) (through : s.Through q limit) (i : Nat)
    (r : Row σ) (here : (a.rows q world)[i]? = some r) :
    (k ≤ i → Late limit r.start) ∧ (k + s.buffer.length ≤ i → Late limit r.accepted) := by
  induction i using Nat.strongRecOn generalizing r with
  | _ i ih =>
    have before (j : Nat) (r' : Row σ) (first : j < i) (behind : k ≤ j)
        (there : (a.rows q world)[j]? = some r') : Late limit r'.start :=
      (ih j first r' there).1 behind
    have accepted (behind : k + s.buffer.length ≤ i) : Late limit r.accepted :=
      h.late_accepted p through behind here before
    refine ⟨fun behind => ?_, accepted⟩
    rcases Nat.lt_or_ge i (k + s.buffer.length) with stored | waits
    · exact h.late_start through behind stored here before
    · rw [a.start_eq here]
      exact late_latest_right _ (late_latest_left (accepted waits) _)

theorem ahead (h : Tracks q world a k s) (p : Spaced q s) (through : s.Through q limit) {i : Nat}
    {r : Row σ} (behind : k ≤ i) (here : (a.rows q world)[i]? = some r) : r.Ahead limit :=
  a.ahead_of_late here ((h.late p through i r here).1 behind)

-- What was done and answered keeps to the schedule.
theorem worker_kept (h : Tracks q world a k s) (p : Spaced q s) (through : s.Through q limit) :
    Kept limit s.now s.outside.acts (allActs (a.rows q world)) ∧
      Kept limit s.now s.answers (allAnswers (a.rows q world)) := by
  have done (d : Done q world a k s) :
      Kept limit s.now s.outside.acts (allActs (a.rows q world)) ∧
        Kept limit s.now s.answers (allAnswers (a.rows q world)) := by
    rw [d.acts, d.answers]
    refine ⟨.of_flatMap k ?_ ?_, .answers k ?_ d.past⟩
    · exact fun i r behind here => (h.ahead p through behind here).acts
    · intro i r before here
      rcases d.past i r before here with ⟨t, answered, soon⟩
      exact acts_of_answered here answered soon
    · exact fun i r behind here => (h.ahead p through behind here).answered
  cases h.work with
  | unstarted _ _ _ d => exact done d
  | idle _ _ _ d _ _ => exact done d
  | ended _ _ _ _ d => exact done d
  | @flying w j own row taken started began f =>
    rcases f.ahead through with ⟨⟨more, record, late⟩, close⟩
    constructor
    · -- The row of the submission in flight is split where it is now.
      have split : allActs ((a.rows q world).take (j + 1) ++ (a.rows q world).drop (j + 1)) =
          allActs ((a.rows q world).drop (j + 1)) ++ allActs ((a.rows q world).take (j + 1)) :=
        flatMap_append_reverse _ _ _
      rw [List.take_append_drop, take_add_one_eq f.here, allActs_snoc, record, List.append_assoc,
        ← f.shares.acts, ← List.append_assoc] at split
      refine ⟨⟨_, split, ?_⟩, ?_⟩
      · intro x mem
        rcases List.mem_append.mp mem with behind | new
        · rcases List.mem_flatMap.mp behind with ⟨r, row, act⟩
          rcases getElem?_of_mem_drop (List.mem_reverse.mp row) with ⟨i, far, here⟩
          exact (h.ahead p through (by omega) here).acts x act
        · exact late x new
      · rw [f.shares.acts]
        intro x mem
        rcases List.mem_append.mp mem with itself | before
        · exact f.early x itself
        · rcases List.mem_flatMap.mp before with ⟨r, row, act⟩
          rcases getElem?_of_mem_take (List.mem_reverse.mp row) with ⟨i, near, here⟩
          rcases f.past i r near here with ⟨t, answered, soon⟩
          exact acts_of_answered here answered soon x act
    · rw [f.answers]
      refine .answers j ?_ f.past
      intro i r behind here
      by_cases same : i = j
      · subst same
        rw [f.here] at here
        rw [← Option.some.inj here]
        exact fun t answered => close t (Row.instant?_of_answered answered)
      · exact (h.ahead p through (by omega) here).answered

/-- A queue that keeps to its schedule is not lost to a crash. -/
theorem not_doomed (h : Tracks q world a k s) (p : Spaced q s) (through : s.Through q limit) :
    ¬Doomed q world a limit := by
  rintro ⟨r, mem, i, text, crash, soon⟩
  rcases List.getElem?_of_mem mem with ⟨n, here⟩
  have crashes : r.course.close.instant? = some i := by rw [crash]; rfl
  have unanswered (t : Nat) : r.answered ≠ some t := by
    unfold Row.answered
    rw [crash]
    exact (Option.some_ne_none t).symm
  -- It would have been reached, and neither be answered nor still to come.
  have fine (past : n < k →
      (∃ t, r.answered = some t ∧ t ≤ s.now) ∨ Late limit r.course.close.instant?) : False := by
    by_cases before : n < k
    · rcases past before with ⟨t, answered, -⟩ | late
      · exact unanswered t answered
      · exact Nat.not_lt_of_le (late i crashes) soon
    · exact Nat.not_lt_of_le ((h.ahead p through (Nat.le_of_not_lt before) here).close i crashes) soon
  cases h.work with
  | unstarted _ _ _ done => exact fine fun before => Or.inl (done.past n r before here)
  | idle _ _ _ done _ _ => exact fine fun before => Or.inl (done.past n r before here)
  | ended _ _ _ _ done => exact fine fun before => Or.inl (done.past n r before here)
  | @flying w j own row taken started began f =>
    refine fine fun before => ?_
    by_cases same : n = j
    · subst same
      rw [f.here] at here
      rw [← Option.some.inj here]
      exact Or.inr (f.ahead through).2
    · exact Or.inl (f.past n r (by omega) here)

-- The worker is gone when its work is over.
theorem gone (h : Tracks q world a k s) (p : Spaced q s) (through : s.Through q limit) {x : Nat}
    (ends : a.ending q world = some x) (past : x < limit) : s.stage = .ended .finished := by
  rcases latest_eq_some.mp ends with ⟨w, b, started, both, later⟩
  rcases latest_eq_some.mp both with ⟨d, e, dropped, last, rest⟩
  cases h.work with
  | unstarted _ never _ _ => exact absurd (never.symm.trans started) (Option.some_ne_none w).symm
  | ended stage _ _ _ _ => exact stage
  | idle stage _ _ _ _ whole =>
    have amount := h.line.amount
    by_cases all : k = a.calls.length
    · -- Its work would be over now, and it would not wait.
      have now := whole all (by rw [dropped]; exact Option.some_ne_none d)
      have same := Option.some.inj (ends.symm.trans now)
      rcases through with early | ⟨-, rests, granted⟩
      · omega
      · rcases ((Rest.of_work? granted rests).idle stage).2 with held | waits
        · rw [h.line.held, dropped] at held
          exact absurd held Bool.noConfusion
        · exact absurd (h.line.nobody all).2 waits
    · -- The next submission is taken up later.
      rcases a.exists_row q world (i := k) (by have := h.line.taken; omega) with ⟨r, here⟩
      rcases answered_of_lastAnswer last (List.mem_of_getElem? here) with ⟨t, answered, soon⟩
      have late := (h.ahead p through (Nat.le_refl k) here).answered t answered
      omega
  | flying own row taken _ _ f =>
    -- The submission in flight is answered later.
    rcases answered_of_lastAnswer last (List.mem_of_getElem? f.here) with ⟨t, answered, soon⟩
    have late := (f.ahead through).2 t (Row.instant?_of_answered answered)
    omega

/-- A queue that keeps to its schedule matches it. -/
theorem matches_ (h : Tracks q world a k s) (p : Spaced q s) (through : s.Through q limit) :
    Matches q world a limit s := by
  rcases h.worker_kept p through with ⟨acts, answers⟩
  refine ⟨?_, acts, answers, h.line.unrejected, ?_, fun x => h.gone p through, ?_⟩
  · rw [h.line.accepted]
    refine .acceptances (k + s.buffer.length) ?_ h.line.stored
    exact fun i r behind here => (h.late p through i r here).2 behind
  · intro how ended
    cases h.work with
    | unstarted stage _ _ _ => exact absurd (stage.symm.trans ended) Stage.noConfusion
    | idle stage _ _ _ _ _ => exact absurd (stage.symm.trans ended) Stage.noConfusion
    | flying _ _ _ _ _ f =>
      have flight := f.flight
      rw [ended] at flight
      exact absurd flight (by simp only [Stage.ticket?, reduceCtorEq, not_false_eq_true])
    | ended stage _ ends le _ =>
      exact ⟨(Stage.ended.inj (stage.symm.trans ended)).symm, _, ends, le⟩
  · intro x ends r mem
    rcases latest_eq_some.mp ends with ⟨w, b, -, both, later⟩
    rcases latest_eq_some.mp both with ⟨d, e, -, last, rest⟩
    rcases answered_of_lastAnswer last mem with ⟨t, answered, soon⟩
    exact ⟨t, answered, by omega⟩

end Tracks

end Queue

end TxRelay
