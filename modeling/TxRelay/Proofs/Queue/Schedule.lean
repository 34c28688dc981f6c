import TxRelay.Proofs.Queue.Course
import TxRelay.Proofs.Queue.Ways

/-!
# The Schedule of a Queue

When everything happens if submissions are worked on one after another, told from
when callers ask and from nothing the queue does but the order in which it accepts
them. The first calls find places; a later one has to wait until the submission as
many places before it was taken up. A submission is taken up as soon as the worker was
started, the submission was accepted and the one before it was answered, and then takes
its course. The chains are handed on from each submission to the next.

An instant that never comes is `none`, and what waits for it never happens.

What is done from outside makes an agenda. It lists the calls in the order of asking,
which need not be the order in which they are accepted, and can be put in another order.

## Main definitions

* `Queue.Call`, `Queue.Row`: A call, and what happens to it, and when.
* `Queue.Row.next`: The recurrence.
* `Queue.schedule`: The schedule of several calls.
* `Queue.Agenda`: What is done from outside, and when.
* `Queue.Agenda.of`, `Queue.State.agenda`: The agenda of commands, and of moves.
* `Queue.Agenda.span`: How long commands take.

## Theorems

* `Queue.schedule_getElem?`: Every row follows from those before it.
* `Queue.start_of_getElem?`: What a submission waits for.
* `Queue.serial_schedule`: Submissions do not overlap.
-/

namespace TxRelay

namespace Queue

variable {σ : Type}

/-- The later of two instants, if both come. -/
def latest : Option Nat → Option Nat → Option Nat
  | some a, some b => some (max a b)
  | _, _ => none

/-- A call. -/
structure Call where
  /-- Its number. -/
  ticket : Nat
  /-- When it is made. -/
  asked : Nat
  /-- Its send operation. -/
  send : Send

/-- What the caller stores. -/
def Call.entry (c : Call) : Entry :=
  ⟨c.ticket, c.send⟩

/-- What happens to one call, and when. -/
structure Row (σ : Type) where
  /-- The number of the call. -/
  ticket : Nat
  /-- When its submission is accepted. -/
  accepted : Option Nat
  /-- When its send operation begins. -/
  start : Option Nat
  /-- What is done then, and how it ends. -/
  course : Course σ

namespace Row

/-- When the submission is answered. -/
def answered (r : Row σ) : Option Nat :=
  match r.course.close with
  | .answered i _ => some i
  | _ => none

/-- The acceptance, with its instant. -/
def acceptance? (r : Row σ) : Option (Nat × Nat) :=
  r.accepted.map fun i => (i, r.ticket)

/-- The answer, with its instant. -/
def answer? (r : Row σ) : Option (Nat × Nat × Response) :=
  match r.course.close with
  | .answered i response => some (i, r.ticket, response)
  | _ => none

end Row

/-- When the last of several submissions is answered. Without any there is
    nothing to wait for. -/
def lastAnswer (rows : List (Row σ)) : Option Nat :=
  match rows.getLast? with
  | some r => r.answered
  | none => some 0

/-- How the last of several submissions leaves the chains. -/
def chainsAfter (world : σ) (rows : List (Row σ)) : σ :=
  match rows.getLast? with
  | some r => r.course.world
  | none => world

/-- What happens to the next call, after `rows`. -/
def Row.next (q : Setup σ) (world : σ) (started : Option Nat) (rows : List (Row σ))
    (call : Call) : Row σ :=
  let accepted :=
    if rows.length < q.places then some call.asked
    -- The place it gets is the one that this submission gives up.
    else latest (some call.asked) (rows[rows.length - q.places]?.bind Row.start)
  let start := latest started (latest accepted (lastAnswer rows))
  { ticket := call.ticket
    accepted := accepted
    start := start
    course := match start with
      | some i => Course.alone q call.ticket call.send i (chainsAfter world rows)
      | none => ⟨[], chainsAfter world rows, .never⟩ }

/-- What happens to several calls, in the order in which they are accepted, when the
    worker is started at some instant. -/
def schedule (q : Setup σ) (world : σ) (started : Option Nat) (calls : List Call) :
    List (Row σ) :=
  calls.foldl (fun rows call => rows ++ [Row.next q world started rows call]) []

/-- What is done from outside, and when. -/
structure Agenda where
  /-- The calls, in order. -/
  calls : List Call
  /-- When the worker is started. -/
  started : Option Nat
  /-- When the handle is given up. -/
  dropped : Option Nat

namespace Agenda

/-- Nothing is done. -/
def empty : Agenda := ⟨[], none, none⟩

/-- An agenda with one more thing to do at an instant. Nobody can call without a
    handle. Calls are numbered in the order of asking. -/
def after (now : Nat) (c : Command) (a : Agenda) : Agenda :=
  match c with
  | .start => { a with started := a.started.or (some now) }
  | .enqueue send =>
    if a.dropped.isNone then { a with calls := a.calls ++ [⟨a.calls.length, now, send⟩] } else a
  | .dropHandle => { a with dropped := a.dropped.or (some now) }
  | .advance _ => a
  | .stop => a
  | .lose => a
  | .withdraw _ => a

/-- The agenda of several commands, the first of which is given at an instant. -/
def continued : Nat → List Command → Agenda → Agenda
  | _, [], a => a
  | now, c :: rest, a => continued (now + c.span?.getD 0) rest (a.after now c)

/-- How long several commands take. -/
def span : List Command → Nat
  | [] => 0
  | c :: rest => c.span?.getD 0 + span rest

/-- The agenda of several commands. -/
def of (commands : List Command) : Agenda :=
  continued 0 commands .empty

/-- An agenda with one more move, which is made at an instant. -/
def noting (now : Nat) (m : Move) (a : Agenda) : Agenda :=
  match m with
  | .call c => a.after now c
  | .work => a
  | .store _ => a

/-- An agenda with its calls in another order. -/
def inOrder (order : List Nat) (a : Agenda) : Agenda :=
  { a with calls := order.filterMap fun n => a.calls[n]? }

/-- The schedule of an agenda. -/
def rows (q : Setup σ) (world : σ) (a : Agenda) : List (Row σ) :=
  schedule q world a.started a.calls

/-- When the worker's work is over. -/
def ending (q : Setup σ) (world : σ) (a : Agenda) : Option Nat :=
  latest a.started (latest a.dropped (lastAnswer (a.rows q world)))

end Agenda

/-- The agenda of several moves, the first of which is made now. -/
def State.agenda (q : Setup σ) : List Move → State σ → Agenda → Agenda
  | [], _, a => a
  | m :: rest, s, a => agenda q rest (s.move q m) (a.noting s.now m)

-- The later of two instants comes if both do.
theorem latest_eq_some {x y : Option Nat} {i : Nat} :
    latest x y = some i ↔ ∃ a b, x = some a ∧ y = some b ∧ max a b = i := by
  constructor
  · intro both
    rcases x with _ | a
    · exact absurd both (by simp only [latest, reduceCtorEq, not_false_eq_true])
    · rcases y with _ | b
      · exact absurd both (by simp only [latest, reduceCtorEq, not_false_eq_true])
      · exact ⟨a, b, rfl, rfl, Option.some.inj both⟩
  · rintro ⟨a, b, rfl, rfl, later⟩
    rw [← later]
    rfl

section Schedule

variable {q : Setup σ} {world : σ} {started : Option Nat} {calls : List Call}

-- More calls add rows at the end.
theorem foldl_schedule (q : Setup σ) (world : σ) (started : Option Nat)
    (calls : List Call) (rows : List (Row σ)) :
    ∃ more, calls.foldl (fun rows call => rows ++ [Row.next q world started rows call]) rows =
      rows ++ more ∧ more.length = calls.length := by
  induction calls generalizing rows with
  | nil => exact ⟨[], (List.append_nil rows).symm, rfl⟩
  | cons call rest ih =>
    rcases ih (rows ++ [Row.next q world started rows call]) with ⟨more, whole, length⟩
    refine ⟨Row.next q world started rows call :: more, ?_, ?_⟩
    · rw [List.foldl_cons, whole, List.append_assoc]
      rfl
    · rw [List.length_cons, List.length_cons, length]

theorem length_schedule (q : Setup σ) (world : σ) (started : Option Nat)
    (calls : List Call) : (schedule q world started calls).length = calls.length := by
  rcases foldl_schedule q world started calls [] with ⟨more, whole, length⟩
  unfold schedule
  rw [whole, List.nil_append, length]

theorem schedule_snoc (call : Call) :
    schedule q world started (calls ++ [call]) =
      schedule q world started calls ++
        [Row.next q world started (schedule q world started calls) call] := by
  unfold schedule
  rw [List.foldl_append]
  rfl

/-- Every row follows from those before it. -/
theorem schedule_getElem? {i : Nat} {call : Call} (asked : calls[i]? = some call) :
    (schedule q world started calls)[i]? =
      some (Row.next q world started ((schedule q world started calls).take i) call) := by
  rcases List.getElem?_eq_some_iff.mp asked with ⟨bound, same⟩
  -- The calls up to this one make the rows before it, and those after it add to them.
  have split : calls = (calls.take i ++ [call]) ++ calls.drop (i + 1) := by
    rw [List.append_assoc, List.singleton_append, ← same, List.getElem_cons_drop bound,
      List.take_append_drop]
  have before := length_schedule q world started (calls.take i)
  rw [List.length_take_of_le (Nat.le_of_lt bound)] at before
  rcases foldl_schedule q world started (calls.drop (i + 1))
    (schedule q world started (calls.take i ++ [call])) with ⟨more, whole, -⟩
  have rows : schedule q world started calls =
      schedule q world started (calls.take i) ++
        Row.next q world started (schedule q world started (calls.take i)) call :: more := by
    rw [schedule_snoc, List.append_assoc, List.singleton_append] at whole
    rw [← whole]
    conv => lhs; rw [split]
    unfold schedule
    rw [List.foldl_append, List.foldl_append]
    rfl
  rw [rows, List.take_left' before, List.getElem?_append_right (Nat.le_of_eq before), before,
    Nat.sub_self]
  rfl

-- Every row follows from those before it.
theorem eq_next_of_getElem? {i : Nat} {row : Row σ}
    (here : (schedule q world started calls)[i]? = some row) :
    ∃ call, calls[i]? = some call ∧
      row = Row.next q world started ((schedule q world started calls).take i) call := by
  rcases List.getElem?_eq_some_iff.mp here with ⟨bound, -⟩
  rw [length_schedule] at bound
  have asked := List.getElem?_eq_getElem bound
  refine ⟨_, asked, ?_⟩
  exact Option.some.inj (here.symm.trans (schedule_getElem? asked))

end Schedule

-- Before every row but the first there is another.
theorem getElem?_before {rows : List (Row σ)} {i : Nat} {row : Row σ}
    (here : rows[i + 1]? = some row) : ∃ r, rows[i]? = some r := by
  rcases List.getElem?_eq_some_iff.mp here with ⟨bound, -⟩
  exact ⟨_, List.getElem?_eq_getElem (Nat.lt_of_succ_lt bound)⟩

-- The last of the first rows.
theorem getLast?_take_succ {rows : List (Row σ)} {i : Nat} {row : Row σ}
    (here : rows[i]? = some row) : (rows.take (i + 1)).getLast? = some row := by
  rw [List.take_add_one, here, Option.toList_some, List.getLast?_append, List.getLast?_singleton]
  rfl

theorem lastAnswer_take_succ {rows : List (Row σ)} {i : Nat} {row : Row σ}
    (here : rows[i]? = some row) : lastAnswer (rows.take (i + 1)) = row.answered := by
  unfold lastAnswer
  rw [getLast?_take_succ here]

theorem chainsAfter_take_succ (world : σ) {rows : List (Row σ)} {i : Nat} {row : Row σ}
    (here : rows[i]? = some row) : chainsAfter world (rows.take (i + 1)) = row.course.world := by
  unfold chainsAfter
  rw [getLast?_take_succ here]

/-- An instant that does not come before a limit, or never comes. -/
def Late (limit : Nat) (x : Option Nat) : Prop :=
  ∀ i, x = some i → limit ≤ i

-- What waits for something late is late.
theorem late_latest_left {limit : Nat} {x : Option Nat} (late : Late limit x) (y : Option Nat) :
    Late limit (latest x y) := by
  intro i both
  rcases latest_eq_some.mp both with ⟨a, b, rfl, rfl, later⟩
  have := late a rfl
  omega

theorem late_latest_right {limit : Nat} {y : Option Nat} (x : Option Nat) (late : Late limit y) :
    Late limit (latest x y) := by
  intro i both
  rcases latest_eq_some.mp both with ⟨a, b, rfl, rfl, later⟩
  have := late b rfl
  omega

namespace Row

/-- Nothing is done for a submission before a limit. -/
structure Ahead (limit : Nat) (r : Row σ) : Prop where
  /-- What is done for it is not done before. -/
  acts : ∀ x ∈ r.course.acts, limit ≤ x.1
  /-- Nor does it end before. -/
  close : Late limit r.course.close.instant?

theorem instant?_of_answered {r : Row σ} {i : Nat} (answered : r.answered = some i) :
    r.course.close.instant? = some i := by
  unfold Row.answered at answered
  cases close : r.course.close with
  | answered j response =>
    rw [close] at answered
    exact answered
  | never =>
    rw [close] at answered
    exact absurd answered (by simp only [reduceCtorEq, not_false_eq_true])
  | crashed j text =>
    rw [close] at answered
    exact absurd answered (by simp only [reduceCtorEq, not_false_eq_true])

theorem Ahead.answered {limit : Nat} {r : Row σ} (ahead : r.Ahead limit) :
    Late limit r.answered :=
  fun i answered => ahead.close i (instant?_of_answered answered)

variable {q : Setup σ} {world : σ} {started : Option Nat} {rows : List (Row σ)}
  {call : Call}

-- A submission that is taken up takes its course.
theorem course_next {i : Nat} (start : (next q world started rows call).start = some i) :
    (next q world started rows call).course =
      Course.alone q call.ticket call.send i (chainsAfter world rows) := by
  unfold next at start ⊢
  dsimp only at start ⊢
  rw [start]

-- What is done for a submission begins with its send operation, at its start.
theorem tidy_next {i : Nat} (start : (next q world started rows call).start = some i) :
    Course.Tidy [(i, Act.send call.ticket)] i (next q world started rows call).course := by
  rw [course_next start]
  exact Course.tidy_alone q call.ticket call.send i _

-- A submission that is never taken up does nothing.
theorem course_next_none (start : (next q world started rows call).start = none) :
    (next q world started rows call).course.acts = [] ∧
      (next q world started rows call).course.close = .never := by
  unfold next at start ⊢
  dsimp only at start ⊢
  rw [start]
  exact ⟨rfl, rfl⟩

-- A submission starts when the worker, its acceptance and the answer before it
-- have come, and not later.
theorem start_next (q : Setup σ) (world : σ) (started : Option Nat) (rows : List (Row σ))
    (call : Call) :
    (next q world started rows call).start =
      latest started (latest (next q world started rows call).accepted (lastAnswer rows)) := rfl

theorem ahead_next {limit : Nat} (late : Late limit (next q world started rows call).start) :
    (next q world started rows call).Ahead limit := by
  cases start : (next q world started rows call).start with
  | none =>
    rcases course_next_none start with ⟨acts, close⟩
    refine ⟨?_, ?_⟩
    · rw [acts]
      exact fun x mem => absurd mem List.not_mem_nil
    · rw [close]
      exact fun i h => absurd h (Option.some_ne_none i).symm
  | some i =>
    have soon := late i start
    rcases tidy_next start with ⟨e, later, ⟨a, record, -, times⟩, close⟩
    refine ⟨?_, ?_⟩
    · intro x mem
      rw [record] at mem
      rcases List.mem_append.mp mem with new | first
      · exact Nat.le_trans soon (times x new).1
      · rw [List.mem_singleton.mp first]
        exact soon
    · intro j ends
      rw [close j ends]
      exact Nat.le_trans soon later

end Row

section Order

variable {q : Setup σ} {world : σ} {started : Option Nat} {calls : List Call}

-- A row follows from those before it, and starts after it was accepted and after the
-- answer to the last of them.
theorem start_of_getElem? {i s : Nat} {row : Row σ}
    (here : (schedule q world started calls)[i]? = some row) (start : row.start = some s) :
    (∃ b, row.accepted = some b ∧ b ≤ s) ∧
      ∃ a, lastAnswer ((schedule q world started calls).take i) = some a ∧ a ≤ s := by
  rcases eq_next_of_getElem? here with ⟨call, -, rfl⟩
  rw [Row.start_next] at start
  rcases latest_eq_some.mp start with ⟨w, b, -, both, later⟩
  rcases latest_eq_some.mp both with ⟨c, a, accepted, answered, rest⟩
  exact ⟨⟨c, accepted, by omega⟩, a, answered, by omega⟩

-- A row with its course in the order of time.
theorem tidy_of_getElem? {i s : Nat} {row : Row σ}
    (here : (schedule q world started calls)[i]? = some row) (start : row.start = some s) :
    Course.Tidy [(s, Act.send row.ticket)] s row.course := by
  rcases eq_next_of_getElem? here with ⟨call, -, rfl⟩
  exact Row.tidy_next start

/-- Submissions that do not overlap. -/
structure Serial (rows : List (Row σ)) : Prop where
  /-- The send operation of a submission is the first thing that is done for it,
      and takes place at its start. -/
  opened : ∀ r ∈ rows, ∀ s, r.start = some s → r.course.acts.getLast? = some (s, .send r.ticket)
  /-- Nothing is done for a submission without a start. -/
  quiet : ∀ r ∈ rows, r.start = none → r.course.acts = [] ∧ r.answered = none
  /-- What is done for a submission is done in the order of time. -/
  sorted : ∀ r ∈ rows, r.course.acts.Pairwise fun x y => y.1 ≤ x.1
  /-- Nothing is done for it after its answer. -/
  within : ∀ r ∈ rows, ∀ i, r.answered = some i → ∀ x ∈ r.course.acts, x.1 ≤ i
  /-- Nothing is done for a later one before its answer. -/
  apart : rows.Pairwise fun a b => ∀ x ∈ b.course.acts, ∃ i, a.answered = some i ∧ i ≤ x.1

-- A submission that is answered was taken up by then.
theorem start_of_answered {i t : Nat} {row : Row σ}
    (here : (schedule q world started calls)[i]? = some row) (answered : row.answered = some t) :
    ∃ s, row.start = some s ∧ s ≤ t := by
  have ends := Row.instant?_of_answered answered
  cases start : row.start with
  | none =>
    rcases eq_next_of_getElem? here with ⟨call, -, rfl⟩
    rw [(Row.course_next_none start).2] at ends
    exact absurd ends (Option.some_ne_none t).symm
  | some s =>
    rcases tidy_of_getElem? here start with ⟨e, later, -, close⟩
    exact ⟨s, rfl, by rw [close t ends]; exact later⟩

-- Every submission before one that starts was answered by then.
theorem answered_of_start {j s : Nat} {row : Row σ}
    (here : (schedule q world started calls)[j]? = some row) (start : row.start = some s)
    {i : Nat} (before : i < j) {r : Row σ}
    (there : (schedule q world started calls)[i]? = some r) :
    ∃ t, r.answered = some t ∧ t ≤ s := by
  induction j generalizing row s with
  | zero => exact absurd before (Nat.not_lt_zero i)
  | succ j ih =>
    rcases start_of_getElem? here start with ⟨-, a, answered, le⟩
    rcases getElem?_before here with ⟨r', last⟩
    rw [lastAnswer_take_succ last] at answered
    by_cases same : i = j
    · subst same
      rw [there] at last
      rw [Option.some.inj last]
      exact ⟨a, answered, le⟩
    · -- The submission in between starts no later than it is answered.
      rcases start_of_answered last answered with ⟨b, begins, later⟩
      rcases ih last begins (by omega) with ⟨t, answered, soon⟩
      exact ⟨t, answered, by omega⟩

-- When the last submission was answered, all of them were.
theorem answered_of_lastAnswer {b : Nat}
    (last : lastAnswer (schedule q world started calls) = some b) {r : Row σ}
    (mem : r ∈ schedule q world started calls) : ∃ t, r.answered = some t ∧ t ≤ b := by
  rcases List.getElem?_of_mem mem with ⟨i, here⟩
  have bound := (List.getElem?_eq_some_iff.mp here).1
  rcases Nat.exists_eq_add_one.mpr (Nat.lt_of_le_of_lt (Nat.zero_le i) bound) with ⟨n, length⟩
  -- The last row was answered at `b`, and everything before it by its start.
  have final := List.getElem?_eq_getElem (l := schedule q world started calls) (i := n) (by omega)
  have whole := lastAnswer_take_succ final
  rw [List.take_of_length_le (by omega), last] at whole
  by_cases same : i = n
  · subst same
    rw [final] at here
    rw [← Option.some.inj here]
    exact ⟨b, whole.symm, Nat.le_refl b⟩
  · rcases start_of_answered final whole.symm with ⟨s, start, le⟩
    rcases answered_of_start final start (by omega) here with ⟨t, answered, soon⟩
    exact ⟨t, answered, by omega⟩

/-- Submissions do not overlap. -/
theorem serial_schedule (q : Setup σ) (world : σ) (started : Option Nat)
    (calls : List Call) : Serial (schedule q world started calls) := by
  have none_ (r : Row σ) (mem : r ∈ schedule q world started calls) (start : r.start = none) :
      r.course.acts = [] ∧ r.course.close = .never := by
    rcases List.getElem?_of_mem mem with ⟨i, here⟩
    rcases eq_next_of_getElem? here with ⟨call, -, rfl⟩
    exact Row.course_next_none start
  have some_ (r : Row σ) (mem : r ∈ schedule q world started calls) (s : Nat)
      (start : r.start = some s) : Course.Tidy [(s, Act.send r.ticket)] s r.course := by
    rcases List.getElem?_of_mem mem with ⟨i, here⟩
    exact tidy_of_getElem? here start
  refine ⟨?_, ?_, ?_, ?_, ?_⟩
  · intro r mem s start
    rcases some_ r mem s start with ⟨e, -, ⟨a, record, -, -⟩, -⟩
    rw [record, List.getLast?_append, List.getLast?_singleton]
    rfl
  · intro r mem start
    rcases none_ r mem start with ⟨acts, close⟩
    refine ⟨acts, ?_⟩
    unfold Row.answered
    rw [close]
  · intro r mem
    cases start : r.start with
    | none =>
      rw [(none_ r mem start).1]
      exact List.Pairwise.nil
    | some s =>
      rcases some_ r mem s start with ⟨e, -, ⟨a, record, sorted, times⟩, -⟩
      rw [record, List.pairwise_append]
      refine ⟨sorted, List.pairwise_singleton _ _, ?_⟩
      intro x new y first
      rw [List.mem_singleton.mp first]
      exact (times x new).1
  · intro r mem i answered x done
    cases start : r.start with
    | none =>
      rw [(none_ r mem start).1] at done
      exact absurd done List.not_mem_nil
    | some s =>
      rcases some_ r mem s start with ⟨e, later, ⟨a, record, -, times⟩, close⟩
      rw [close i (Row.instant?_of_answered answered)]
      rw [record] at done
      rcases List.mem_append.mp done with new | first
      · exact (times x new).2
      · rw [List.mem_singleton.mp first]
        exact later
  · -- What is done for the later one comes after its start.
    rw [List.pairwise_iff_getElem]
    intro i j hi hj before x done
    have here := List.getElem?_eq_getElem hj
    have there := List.getElem?_eq_getElem hi
    cases start : (schedule q world started calls)[j].start with
    | none =>
      rw [(none_ _ (List.getElem_mem hj) start).1] at done
      exact absurd done List.not_mem_nil
    | some s =>
      rcases answered_of_start here start before there with ⟨t, answered, soon⟩
      rcases some_ _ (List.getElem_mem hj) s start with ⟨e, -, ⟨a, record, -, times⟩, -⟩
      refine ⟨t, answered, ?_⟩
      rw [record] at done
      rcases List.mem_append.mp done with new | first
      · exact Nat.le_trans soon (times x new).1
      · rw [List.mem_singleton.mp first]
        exact soon

end Order

end Queue

end TxRelay
