import TxRelay.Proofs.Queue.Answers
import TxRelay.Proofs.Queue.Places
import TxRelay.Proofs.Queue.Schedule

/-!
# Keeping to the Schedule

A queue that nobody closes and whose worker is not lost does what its schedule
says. `Tracks` is what carries this from one step to the next: which rows of the
schedule are over, which one the worker is at and how far, and that whatever the worker
can do now is scheduled for now.

The calls are scheduled in the order in which they are accepted, and those in line come
after them. Whoever is accepted next is accepted now, be it a caller who asks now or one
who waits. For one who asked before, this takes that the place it gets became free now:
it would have been handed to it before, and time does not pass while a place is on its
way. `Line.recent` says so of all places that can become somebody's next.

## Main definitions

* `Queue.Line`: The callers and the stored entries are where the schedule has them.
* `Queue.Work`: So is the worker.
* `Queue.Tracks`: Both.
* `Queue.Agenda.accept`: The agenda when somebody is accepted next.

## Theorems

* `Queue.Tracks.take`, `goesOn`, `isOver`, `finish`: Every step of the worker keeps to the
  schedule.
* `Queue.Tracks.accepts`: So does everybody who is accepted.
-/

namespace TxRelay

namespace Queue

variable {σ : Type}

namespace State

/-- Which submissions were answered, how and when, the latest first. -/
def answers (s : State σ) : List (Nat × Nat × Response) :=
  s.events.filterMap fun e => e.2.answer?.map fun a => (e.1, a)

section Told

variable (n : Nat) (r : Response) (e : Entry) (s : State σ)

-- An answer is an answer and nothing else.
theorem answers_answer : (s.answer n r).answers = (s.now, n, r) :: s.answers := by
  show List.filterMap _ ((s.now, s.reply n r) :: s.events) = _
  rw [List.filterMap_cons_some (by rw [answer?_reply]; rfl)]
  rfl

theorem rejected_answer : (s.answer n r).rejected = s.rejected := by
  show List.filterMap _ ((s.now, s.reply n r) :: s.events) = _
  rw [List.filterMap_cons_none (by rw [rejected?_reply])]
  rfl

-- Storing an entry tells its caller, and asks nothing of the chains.
theorem answers_store : (s.store e).answers = s.answers := rfl

theorem acts_store : (s.store e).outside.acts = s.outside.acts :=
  Surroundings.acts_measure _ s.outside

theorem world_store : (s.store e).outside.world = s.outside.world :=
  Surroundings.world_measure _ s.outside

end Told

end State

/-- Everything that is done for some submissions, the latest first. -/
def allActs (rows : List (Row σ)) : List (Nat × Act) :=
  rows.reverse.flatMap fun r => r.course.acts

/-- All answers, the latest first. -/
def allAnswers (rows : List (Row σ)) : List (Nat × Nat × Response) :=
  rows.reverse.filterMap Row.answer?

/-- All acceptances, the latest first. -/
def allAcceptances (rows : List (Row σ)) : List (Nat × Nat) :=
  rows.reverse.filterMap Row.acceptance?

/-- The callers and the stored entries are where the schedule has them, after the
    worker took `k` entries. -/
structure Line (q : Setup σ) (world : σ) (a : Agenda) (k : Nat) (s : State σ) : Prop where
  /-- Nobody closed the queue. -/
  opened : s.shutdown = false
  /-- The handle was given up or not. -/
  held : s.held = a.dropped.isNone
  /-- What the worker did not take is stored or waits in line, in order. -/
  entries : s.buffer ++ s.waiters = (a.calls.drop k).map Call.entry
  /-- The worker takes what there is. -/
  taken : k ≤ a.calls.length
  /-- Nobody calls ahead of time. -/
  calls : ∀ c ∈ a.calls, c.asked ≤ s.now
  /-- The handle is not given up ahead of time. -/
  dropped : ∀ d, a.dropped = some d → d ≤ s.now
  /-- Nobody is turned away. -/
  unrejected : s.rejected = []
  /-- What was accepted is what the schedule has. -/
  accepted : s.acceptances = allAcceptances ((a.rows q world).take (k + s.buffer.length))
  /-- It was accepted when the schedule says. -/
  stored : ∀ i r, i < k + s.buffer.length → (a.rows q world)[i]? = some r →
    ∃ t, r.accepted = some t ∧ t ≤ s.now
  /-- Nobody waits before every place was taken. -/
  waited : s.waiters ≠ [] → q.places ≤ k + s.buffer.length
  /-- If somebody in line asked before, the submissions that gave up their places to those
      who are accepted next were taken up now. -/
  recent : ∀ c ∈ a.calls.drop (k + s.buffer.length), c.asked < s.now → ∀ i r, i < k →
    k + s.buffer.length ≤ i + q.places → (a.rows q world)[i]? = some r → r.start = some s.now

/-- The first `k` submissions are over, and nothing else was done. -/
structure Done (q : Setup σ) (world : σ) (a : Agenda) (k : Nat) (s : State σ) : Prop where
  /-- They were answered. -/
  past : ∀ i r, i < k → (a.rows q world)[i]? = some r → ∃ t, r.answered = some t ∧ t ≤ s.now
  /-- The answers are those of the schedule. -/
  answers : s.answers = allAnswers ((a.rows q world).take k)
  /-- So is what was done. -/
  acts : s.outside.acts = allActs ((a.rows q world).take k)
  /-- The chains are as the last of them left them. -/
  chains : s.outside.world = chainsAfter world ((a.rows q world).take k)

/-- The worker is at submission `j`, whose row is `row` and which did `own` so far. -/
structure Flying (q : Setup σ) (world : σ) (a : Agenda) (j : Nat) (own : Surroundings σ)
    (row : Row σ) (s : State σ) : Prop where
  /-- It is in flight. -/
  flight : s.stage.ticket? = some row.ticket
  /-- Its row is there. -/
  here : (a.rows q world)[j]? = some row
  /-- Those before it were answered. -/
  past : ∀ i r, i < j → (a.rows q world)[i]? = some r → ∃ t, r.answered = some t ∧ t ≤ s.now
  /-- The answers are those of the schedule. -/
  answers : s.answers = allAnswers ((a.rows q world).take j)
  /-- What it did comes after what they did. -/
  shares : Shares own s.outside (allActs ((a.rows q world).take j))
  /-- What it does is what the schedule has. -/
  course : Course.ofStage q s.now own s.stage = row.course
  /-- What it did is not ahead of time. -/
  early : ∀ x ∈ own.acts, x.1 ≤ s.now
  /-- Its wait is not past its limit. -/
  timely : s.stage.Timely
  /-- Its next step is not overdue. -/
  punctual : Punctual s

/-- The worker is where the schedule has it, after it took `k` entries. -/
inductive Work (q : Setup σ) (world : σ) (a : Agenda) (k : Nat) (s : State σ) : Prop where
  /-- It was not started. -/
  | unstarted (stage : s.stage = .unstarted) (started : a.started = none) (none : k = 0)
      (done : Done q world a k s)
  /-- It waits for an entry. One that is stored is to be taken now, and if there is
      nothing to wait for its work is over now. -/
  | idle {w : Nat} (stage : s.stage = .idle) (started : a.started = some w) (began : w ≤ s.now)
      (done : Done q world a k s)
      (next : ∀ r, 0 < s.buffer.length → (a.rows q world)[k]? = some r → r.start = some s.now)
      (last : k = a.calls.length → a.dropped ≠ none → a.ending q world = some s.now)
  /-- It works on the last entry it took. -/
  | flying {w j : Nat} (own : Surroundings σ) (row : Row σ) (taken : k = j + 1)
      (started : a.started = some w) (began : w ≤ s.now)
      (flying : Flying q world a j own row s)
  /-- Its work is over. -/
  | ended {x : Nat} (stage : s.stage = .ended .finished) (whole : k = a.calls.length)
      (ends : a.ending q world = some x) (le : x ≤ s.now) (done : Done q world a k s)

/-- The queue keeps to the schedule, after the worker took `k` entries. -/
structure Tracks (q : Setup σ) (world : σ) (a : Agenda) (k : Nat) (s : State σ) : Prop where
  /-- The callers do. -/
  line : Line q world a k s
  /-- The worker does. -/
  work : Work q world a k s

section Lists

-- One more row.
theorem allActs_snoc (rows : List (Row σ)) (r : Row σ) :
    allActs (rows ++ [r]) = r.course.acts ++ allActs rows := by
  unfold allActs
  rw [List.reverse_append, List.reverse_singleton, List.singleton_append, List.flatMap_cons]

theorem take_add_one_eq {rows : List (Row σ)} {i : Nat} {r : Row σ} (here : rows[i]? = some r) :
    rows.take (i + 1) = rows.take i ++ [r] := by
  rw [List.take_add_one, here]
  rfl

theorem allAnswers_snoc {rows : List (Row σ)} {r : Row σ} {i : Nat} {response : Response}
    (close : r.course.close = .answered i response) :
    allAnswers (rows ++ [r]) = (i, r.ticket, response) :: allAnswers rows := by
  have answer : r.answer? = some (i, r.ticket, response) := by
    unfold Row.answer?
    rw [close]
  unfold allAnswers
  rw [List.reverse_append, List.reverse_singleton, List.singleton_append,
    List.filterMap_cons_some answer]

theorem allAcceptances_snoc {rows : List (Row σ)} {r : Row σ} {i : Nat}
    (accepted : r.accepted = some i) :
    allAcceptances (rows ++ [r]) = (i, r.ticket) :: allAcceptances rows := by
  have acceptance : r.acceptance? = some (i, r.ticket) := by
    unfold Row.acceptance?
    rw [accepted]
    rfl
  unfold allAcceptances
  rw [List.reverse_append, List.reverse_singleton, List.singleton_append,
    List.filterMap_cons_some acceptance]

end Lists

section Rows

variable {q : Setup σ} {world : σ} {a b : Agenda} {k : Nat} {s t : State σ}

-- A queue has places.
theorem Setup.places_pos (q : Setup σ) : 0 < q.places :=
  Nat.le_max_left 1 q.capacity

namespace Agenda

theorem length_rows (q : Setup σ) (world : σ) (a : Agenda) :
    (a.rows q world).length = a.calls.length :=
  length_schedule q world a.started a.calls

-- Every call has its row.
theorem exists_row (q : Setup σ) (world : σ) {i : Nat} (bound : i < a.calls.length) :
    ∃ r, (a.rows q world)[i]? = some r := by
  rw [← a.length_rows q world] at bound
  exact ⟨_, List.getElem?_eq_getElem bound⟩

theorem lt_of_row {i : Nat} {r : Row σ} (here : (a.rows q world)[i]? = some r) :
    i < a.calls.length := by
  rw [← a.length_rows q world]
  exact (List.getElem?_eq_some_iff.mp here).1

-- A row and the rows before it.
theorem next_of_row {i : Nat} {r : Row σ} (here : (a.rows q world)[i]? = some r) :
    ∃ call, a.calls[i]? = some call ∧ ((a.rows q world).take i).length = i ∧
      r = Row.next q world a.started ((a.rows q world).take i) call := by
  rcases eq_next_of_getElem? here with ⟨call, asked, same⟩
  have bound := Nat.le_of_lt (List.getElem?_eq_some_iff.mp here).1
  exact ⟨call, asked, List.length_take_of_le bound, same⟩

-- The rows of the first calls are the first rows.
theorem take_rows {n : Nat} (started : b.started = a.started)
    (calls : b.calls.take n = a.calls.take n) :
    (b.rows q world).take n = (a.rows q world).take n := by
  have first (c : Agenda) :
      (c.rows q world).take n = schedule q world c.started (c.calls.take n) := by
    rcases Nat.le_total n c.calls.length with within | beyond
    · rcases foldl_schedule q world c.started (c.calls.drop n)
        (schedule q world c.started (c.calls.take n)) with ⟨more, whole, -⟩
      have rows : c.rows q world = schedule q world c.started (c.calls.take n) ++ more := by
        rw [← whole]
        unfold rows
        conv => lhs; rw [← List.take_append_drop n c.calls]
        exact List.foldl_append
      rw [rows, List.take_left' (by rw [length_schedule, List.length_take_of_le within])]
    · rw [List.take_of_length_le beyond, List.take_of_length_le (by rw [length_rows]; exact beyond)]
      rfl
  rw [first a, first b, started, calls]

theorem getElem?_rows {n i : Nat} (started : b.started = a.started)
    (calls : b.calls.take n = a.calls.take n) (soon : i < n) :
    (b.rows q world)[i]? = (a.rows q world)[i]? := by
  rw [← List.getElem?_take_of_lt soon, take_rows started calls, List.getElem?_take_of_lt soon]

-- The first calls find places.
theorem accepted_of_room {i : Nat} {r : Row σ} (room : i < q.places)
    (here : (a.rows q world)[i]? = some r) :
    ∃ call, a.calls[i]? = some call ∧ r.accepted = some call.asked := by
  rcases next_of_row here with ⟨call, asked, length, rfl⟩
  refine ⟨call, asked, ?_⟩
  unfold Row.next
  dsimp only
  rw [if_pos (by rw [length]; exact room)]

-- A later call waits until the submission as many places before it was taken
-- up.
theorem accepted_of_full {i : Nat} {r p : Row σ} (full : q.places ≤ i)
    (here : (a.rows q world)[i]? = some r) (there : (a.rows q world)[i - q.places]? = some p) :
    ∃ call, a.calls[i]? = some call ∧ r.accepted = latest (some call.asked) p.start := by
  rcases next_of_row here with ⟨call, asked, length, rfl⟩
  have before : i - q.places < i := Nat.sub_lt_self q.places_pos full
  refine ⟨call, asked, ?_⟩
  unfold Row.next
  dsimp only
  rw [if_neg (by rw [length]; exact Nat.not_lt_of_le full), length,
    List.getElem?_take_of_lt before, there]
  rfl

-- When a submission is taken up.
theorem start_of_row {i w b x : Nat} {r : Row σ} (here : (a.rows q world)[i]? = some r)
    (started : a.started = some w) (accepted : r.accepted = some b)
    (last : lastAnswer ((a.rows q world).take i) = some x) : r.start = some (max w (max b x)) := by
  rcases next_of_row here with ⟨call, asked, length, rfl⟩
  rw [Row.start_next, accepted, last, started]
  rfl

-- When the work is over.
theorem ending_eq {w d x : Nat} (started : a.started = some w) (dropped : a.dropped = some d)
    (last : lastAnswer (a.rows q world) = some x) : a.ending q world = some (max w (max d x)) := by
  unfold ending
  rw [started, dropped, last]
  rfl

-- The work is not over while the handle is held.
theorem ending_of_held (q : Setup σ) (world : σ) (held : a.dropped = none) :
    a.ending q world = none := by
  unfold ending
  rw [held]
  cases a.started <;> rfl

/-- The agenda when, after so many calls, a call is accepted next, and then those in
    line. -/
def accept (n : Nat) (c : Call) (line : List Call) (a : Agenda) : Agenda :=
  { a with calls := a.calls.take n ++ c :: line }

section Accept

variable {n : Nat} (c : Call) (line : List Call)

theorem take_accept (bound : n ≤ a.calls.length) :
    (a.accept n c line).calls.take n = a.calls.take n :=
  List.take_left' (List.length_take_of_le bound)

theorem drop_accept (bound : n ≤ a.calls.length) : (a.accept n c line).calls.drop n = c :: line :=
  List.drop_left' (List.length_take_of_le bound)

theorem getElem?_accept (bound : n ≤ a.calls.length) :
    (a.accept n c line).calls[n]? = some c := by
  rw [← List.head?_drop, drop_accept c line bound]
  rfl

-- The rows before that call stay as they are.
theorem take_rows_accept (bound : n ≤ a.calls.length) {m : Nat} (few : m ≤ n) :
    ((a.accept n c line).rows q world).take m = (a.rows q world).take m := by
  have first := congrArg (List.take m) (take_accept c line bound)
  rw [List.take_take, List.take_take, Nat.min_eq_left few] at first
  exact take_rows rfl first

theorem getElem?_rows_accept (bound : n ≤ a.calls.length) {i : Nat} (soon : i < n) :
    ((a.accept n c line).rows q world)[i]? = (a.rows q world)[i]? :=
  getElem?_rows rfl (take_accept c line bound) soon

end Accept

-- Calls that find places are accepted at once, whenever the worker is started.
theorem acceptances_of_room (calls : b.calls = a.calls) {m : Nat} (room : m ≤ q.places) :
    allAcceptances ((b.rows q world).take m) = allAcceptances ((a.rows q world).take m) := by
  have tickets {c : Agenda} {i : Nat} {r : Row σ} {call : Call}
      (here : (c.rows q world)[i]? = some r) (asked : c.calls[i]? = some call) :
      r.ticket = call.ticket := by
    rcases c.next_of_row here with ⟨call', asked', -, rfl⟩
    rw [Option.some.inj (asked.symm.trans asked')]
    rfl
  induction m with
  | zero => rfl
  | succ m ih =>
    have before := ih (Nat.le_of_succ_le room)
    have length := a.length_rows q world
    have length' := b.length_rows q world
    by_cases bound : m < a.calls.length
    · rcases a.exists_row q world bound with ⟨r, here⟩
      rcases b.exists_row q world (by rw [calls]; exact bound) with ⟨r', there⟩
      rcases a.accepted_of_room room here with ⟨call, asked, accepted⟩
      rcases b.accepted_of_room room there with ⟨call', asked', accepted'⟩
      have same := tickets there asked'
      rw [calls, asked] at asked'
      rw [← Option.some.inj asked'] at accepted' same
      rw [take_add_one_eq here, take_add_one_eq there, allAcceptances_snoc accepted,
        allAcceptances_snoc accepted', tickets here asked, same, before]
    · rw [List.take_of_length_le (by rw [length', calls]; omega),
        List.take_of_length_le (by omega)] at before ⊢
      exact before

end Agenda

-- The last answer so far is not ahead of time.
theorem lastAnswer_of_past {k now : Nat} (taken : k ≤ a.calls.length)
    (past : ∀ i r, i < k → (a.rows q world)[i]? = some r → ∃ t, r.answered = some t ∧ t ≤ now) :
    ∃ x, lastAnswer ((a.rows q world).take k) = some x ∧ x ≤ now := by
  cases k with
  | zero => exact ⟨0, rfl, Nat.zero_le now⟩
  | succ j =>
    rcases a.exists_row q world taken with ⟨r, here⟩
    rcases past j r (Nat.lt_succ_self j) here with ⟨x, answered, le⟩
    exact ⟨x, (lastAnswer_take_succ here).trans answered, le⟩

-- What was answered stays answered.
theorem past_later {k now later : Nat} (le : now ≤ later)
    (past : ∀ i r, i < k → (a.rows q world)[i]? = some r → ∃ t, r.answered = some t ∧ t ≤ now)
    (i : Nat) (r : Row σ) (before : i < k) (here : (a.rows q world)[i]? = some r) :
    ∃ t, r.answered = some t ∧ t ≤ later := by
  rcases past i r before here with ⟨t, answered, soon⟩
  exact ⟨t, answered, Nat.le_trans soon le⟩

-- Other agendas with the same first rows have the same past.
theorem past_of_take {b : Agenda} {k now : Nat}
    (same : (b.rows q world).take k = (a.rows q world).take k)
    (past : ∀ i r, i < k → (a.rows q world)[i]? = some r → ∃ t, r.answered = some t ∧ t ≤ now)
    (i : Nat) (r : Row σ) (before : i < k) (here : (b.rows q world)[i]? = some r) :
    ∃ t, r.answered = some t ∧ t ≤ now := by
  have rows : ((b.rows q world).take k)[i]? = ((a.rows q world).take k)[i]? := by rw [same]
  rw [List.getElem?_take_of_lt before, List.getElem?_take_of_lt before, here] at rows
  exact past i r before rows.symm

end Rows

namespace Line

variable {q : Setup σ} {world : σ} {a : Agenda} {k : Nat} {s t : State σ}

-- The first of what is left is the entry of call `k`.
theorem entry_of_cons {e : Entry} {rest : List Entry}
    (rows : e :: rest = (a.calls.drop k).map Call.entry) :
    ∃ call, a.calls[k]? = some call ∧ e = call.entry ∧
      rest = (a.calls.drop (k + 1)).map Call.entry := by
  rcases left : a.calls.drop k with _ | ⟨call, others⟩
  · rw [left] at rows
    exact absurd rows (List.cons_ne_nil e rest)
  · rw [left, List.map_cons] at rows
    refine ⟨call, ?_, (List.cons.inj rows).1, ?_⟩
    · rw [← List.head?_drop, left]
      rfl
    · rw [← List.drop_drop, left]
      exact (List.cons.inj rows).2

-- Everybody was taken, is stored or waits in line.
theorem amount (l : Line q world a k s) :
    k + s.buffer.length + s.waiters.length = a.calls.length := by
  have amount := congrArg List.length l.entries
  have taken := l.taken
  rw [List.length_append, List.length_map, List.length_drop] at amount
  omega

-- Those who are stored, and those who wait in line.
theorem split (l : Line q world a k s) :
    s.buffer = ((a.calls.take (k + s.buffer.length)).drop k).map Call.entry ∧
      s.waiters = (a.calls.drop (k + s.buffer.length)).map Call.entry := by
  constructor
  · rw [List.drop_take, Nat.add_sub_cancel_left, List.map_take, ← l.entries, List.take_left]
  · rw [← List.drop_drop, List.map_drop, ← l.entries, List.drop_left]

-- When the worker took everything, nothing is stored and nobody waits.
theorem nobody (l : Line q world a k s) (all : k = a.calls.length) :
    s.buffer = [] ∧ s.waiters = [] := by
  have amount := l.amount
  exact ⟨List.length_eq_zero_iff.mp (by omega), List.length_eq_zero_iff.mp (by omega)⟩

-- Nothing changes for the callers but the time, and then no place is on its way.
theorem later (l : Line q world a k s) (p : Spaced q s)
    (queue : t.shutdown = s.shutdown ∧ t.held = s.held ∧ t.buffer = s.buffer ∧
      t.waiters = s.waiters)
    (acceptances : t.acceptances = s.acceptances) (rejected : t.rejected = s.rejected)
    (now : s.now ≤ t.now) (calm : t.now = s.now ∨ s.granted = 0) : Line q world a k t := by
  rcases queue with ⟨shutdown, held, buffer, waiters⟩
  refine ⟨shutdown.trans l.opened, held.trans l.held, ?_, l.taken, ?_, ?_,
    rejected.trans l.unrejected, ?_, ?_, ?_, ?_⟩
  · rw [buffer, waiters]
    exact l.entries
  · exact fun c mem => Nat.le_trans (l.calls c mem) now
  · exact fun d drop => Nat.le_trans (l.dropped d drop) now
  · rw [acceptances, buffer]
    exact l.accepted
  · rw [buffer]
    intro i r soon here
    rcases l.stored i r soon here with ⟨t', accepted, le⟩
    exact ⟨t', accepted, Nat.le_trans le now⟩
  · rw [buffer, waiters]
    exact l.waited
  · rw [buffer]
    intro c waits before i r taken place here
    rcases calm with same | none
    · rw [same] at before ⊢
      exact l.recent c waits before i r taken place here
    · -- Somebody waits, so the buffer is full, and no place became free.
      have amount := l.amount
      have some_ := List.length_pos_of_mem waits
      have full := p.full
      unfold State.depth at full
      rw [List.length_drop] at some_
      omega

/-- The worker takes an entry that is to be taken now. -/
theorem take (l : Line q world a k s) {e : Entry} {rest : List Entry} {row : Row σ}
    (buffer : s.buffer = e :: rest) (here : (a.rows q world)[k]? = some row)
    (start : row.start = some s.now) : Line q world a (k + 1) (s.receive q e rest) := by
  have entries := l.entries
  have accepted := l.accepted
  have stored := l.stored
  have waited := l.waited
  have recent := l.recent
  rw [buffer, List.cons_append] at entries
  rw [buffer, List.length_cons] at accepted stored waited recent
  have shift : k + (rest.length + 1) = k + 1 + rest.length := by omega
  rw [shift] at accepted stored waited recent
  rcases entry_of_cons entries with ⟨call, asked, -, left⟩
  rw [(s.receive_frame q e rest).1]
  refine ⟨l.opened, l.held, left, (List.getElem?_eq_some_iff.mp asked).1, l.calls, l.dropped,
    l.unrejected, accepted, stored, waited, ?_⟩
  intro c waits before i r taken place there
  by_cases last : i = k
  · subst last
    rw [here] at there
    rw [← Option.some.inj there]
    exact start
  · exact recent c waits before i r (by omega) place there

/-- A caller is accepted, who is to be accepted now. -/
theorem accepts (l : Line q world a k s) {c : Call} {line : List Call}
    (queue : t.shutdown = s.shutdown ∧ t.held = s.held ∧ t.now = s.now ∧
      t.buffer = s.buffer ++ [c.entry] ∧ t.waiters = line.map Call.entry)
    (acceptances : t.acceptances = (s.now, c.ticket) :: s.acceptances)
    (rejected : t.rejected = s.rejected) (asked : c.asked ≤ s.now)
    (others : line ⊆ a.calls.drop (k + s.buffer.length))
    (now : ∀ r, ((a.accept (k + s.buffer.length) c line).rows q world)[k + s.buffer.length]? =
      some r → r.accepted = some s.now) :
    Line q world (a.accept (k + s.buffer.length) c line) k t := by
  rcases queue with ⟨shutdown, held, clock, buffer, waiters⟩
  have amount := l.amount
  have bound : k + s.buffer.length ≤ a.calls.length := by omega
  have behind := a.drop_accept c line bound
  have longer : k + t.buffer.length = k + s.buffer.length + 1 := by
    rw [buffer, List.length_append, List.length_singleton, Nat.add_assoc]
  have left : (a.accept (k + s.buffer.length) c line).calls.drop (k + s.buffer.length + 1) =
      line := by
    rw [← List.drop_drop, behind, List.drop_one, List.tail_cons]
  have itself := a.getElem?_accept c line bound
  have here := Agenda.exists_row q world (List.getElem?_eq_some_iff.mp itself).1
  rcases here with ⟨row, here⟩
  have ticket : row.ticket = c.ticket := by
    rcases Agenda.next_of_row here with ⟨call, same, -, rfl⟩
    rw [Option.some.inj (itself.symm.trans same)]
    rfl
  refine ⟨shutdown.trans l.opened, held.trans l.held, ?_, ?_, ?_, ?_, rejected.trans l.unrejected,
    ?_, ?_, ?_, ?_⟩
  · have whole : (a.accept (k + s.buffer.length) c line).calls.drop k =
        (a.calls.take (k + s.buffer.length)).drop k ++ c :: line :=
      List.drop_append_of_le_length (by rw [List.length_take_of_le bound]; omega)
    rw [whole, List.map_append, List.map_cons, ← l.split.1, buffer, waiters, List.append_assoc]
    rfl
  · show k ≤ (a.calls.take (k + s.buffer.length) ++ c :: line).length
    rw [List.length_append, List.length_take_of_le bound]
    omega
  · rw [clock]
    intro d mem
    rcases List.mem_append.mp mem with early | new
    · exact l.calls d (List.mem_of_mem_take early)
    · rcases List.mem_cons.mp new with rfl | waits
      · exact asked
      · exact l.calls d (List.mem_of_mem_drop (others waits))
  · rw [clock]
    exact l.dropped
  · rw [longer, take_add_one_eq here, allAcceptances_snoc (now row here), ticket, acceptances,
      l.accepted, a.take_rows_accept c line bound (Nat.le_refl _)]
  · rw [longer, clock]
    intro i r soon there
    by_cases old : i < k + s.buffer.length
    · exact l.stored i r old ((a.getElem?_rows_accept c line bound old).symm.trans there)
    · rw [show i = k + s.buffer.length by omega] at there
      exact ⟨s.now, now r there, Nat.le_refl _⟩
  · rw [longer, waiters]
    intro some_
    have waits : s.waiters ≠ [] := by
      rw [l.split.2]
      intro nobody
      rcases line with _ | ⟨d, more⟩
      · exact some_ rfl
      · rw [List.map_eq_nil_iff.mp nobody] at others
        exact absurd (others List.mem_cons_self) List.not_mem_nil
    exact Nat.le_succ_of_le (l.waited waits)
  · rw [longer, left, clock]
    intro d waits before i r taken place there
    exact l.recent d (others waits) before i r taken (by omega)
      ((a.getElem?_rows_accept c line bound (by omega)).symm.trans there)

end Line

-- Nothing was done and nobody was answered.
theorem Done.same {q : Setup σ} {world : σ} {a : Agenda} {k : Nat} {s t : State σ}
    (d : Done q world a k s) (now : s.now ≤ t.now) (answers : t.answers = s.answers)
    (acts : t.outside.acts = s.outside.acts) (chains : t.outside.world = s.outside.world) :
    Done q world a k t :=
  ⟨past_later now d.past, answers.trans d.answers, acts.trans d.acts, chains.trans d.chains⟩

-- Only the rows of those submissions count.
theorem Done.of_take {q : Setup σ} {world : σ} {a b : Agenda} {k : Nat} {s : State σ}
    (d : Done q world a k s) (same : (b.rows q world).take k = (a.rows q world).take k) :
    Done q world b k s := by
  refine ⟨past_of_take same d.past, ?_, ?_, ?_⟩
  · rw [same]
    exact d.answers
  · rw [same]
    exact d.acts
  · rw [same]
    exact d.chains

-- Nor did the submission in flight come further.
theorem Flying.same {q : Setup σ} {world : σ} {a : Agenda} {j : Nat} {own : Surroundings σ}
    {row : Row σ} {s t : State σ} (f : Flying q world a j own row s) (now : t.now = s.now)
    (stage : t.stage = s.stage) (answers : t.answers = s.answers)
    (acts : t.outside.acts = s.outside.acts) (chains : t.outside.world = s.outside.world) :
    Flying q world a j own row t := by
  refine ⟨?_, f.here, ?_, answers.trans f.answers, ⟨f.shares.world.trans chains.symm,
    acts.trans f.shares.acts⟩, ?_, ?_, ?_, ?_⟩
  · rw [stage]
    exact f.flight
  · rw [now]
    exact f.past
  · rw [now, stage]
    exact f.course
  · rw [now]
    exact f.early
  · rw [stage]
    exact f.timely
  · unfold Punctual
    rw [stage, now]
    exact f.punctual

-- Only the rows up to the submission in flight count.
theorem Flying.of_take {q : Setup σ} {world : σ} {a b : Agenda} {j : Nat} {own : Surroundings σ}
    {row : Row σ} {s : State σ} (f : Flying q world a j own row s)
    (same : (b.rows q world).take j = (a.rows q world).take j)
    (here : (b.rows q world)[j]? = (a.rows q world)[j]?) : Flying q world b j own row s := by
  refine ⟨f.flight, here.trans f.here, past_of_take same f.past, ?_, ?_, f.course, f.early,
    f.timely, f.punctual⟩
  · rw [same]
    exact f.answers
  · rw [same]
    exact f.shares

namespace Work

variable {q : Setup σ} {world : σ} {a : Agenda} {k : Nat} {s t : State σ}

-- An idle worker has everything it took behind it.
theorem of_idle (w : Work q world a k s) (idle : s.stage = .idle) :
    (∃ w, a.started = some w ∧ w ≤ s.now) ∧ Done q world a k s ∧
      (∀ r, 0 < s.buffer.length → (a.rows q world)[k]? = some r → r.start = some s.now) ∧
      (k = a.calls.length → a.dropped ≠ none → a.ending q world = some s.now) := by
  cases w with
  | unstarted stage _ _ _ => exact absurd (stage.symm.trans idle) Stage.noConfusion
  | idle _ started began done next last => exact ⟨⟨_, started, began⟩, done, next, last⟩
  | flying _ _ _ _ _ flying =>
    have flight := flying.flight
    rw [idle] at flight
    exact absurd flight (by simp only [Stage.ticket?, reduceCtorEq, not_false_eq_true])
  | ended stage _ _ _ _ => exact absurd (stage.symm.trans idle) Stage.noConfusion

-- A worker with a submission in flight is at the last one it took.
theorem of_flight (w : Work q world a k s) {n : Nat} (flight : s.stage.ticket? = some n) :
    ∃ j own row, k = j + 1 ∧ row.ticket = n ∧ (∃ w, a.started = some w ∧ w ≤ s.now) ∧
      Flying q world a j own row s := by
  cases w with
  | unstarted stage _ _ _ =>
    rw [stage] at flight
    exact absurd flight (by simp only [Stage.ticket?, reduceCtorEq, not_false_eq_true])
  | idle stage _ _ _ _ _ =>
    rw [stage] at flight
    exact absurd flight (by simp only [Stage.ticket?, reduceCtorEq, not_false_eq_true])
  | @flying w j own row taken started began flying =>
    exact ⟨j, own, row, taken, Option.some.inj (flying.flight.symm.trans flight),
      ⟨w, started, began⟩, flying⟩
  | ended stage _ _ _ _ =>
    rw [stage] at flight
    exact absurd flight (by simp only [Stage.ticket?, reduceCtorEq, not_false_eq_true])

-- Nothing was done, and whatever could be done can still be done now.
theorem same (w : Work q world a k s) (now : t.now = s.now) (stage : t.stage = s.stage)
    (buffer : t.buffer = s.buffer) (answers : t.answers = s.answers)
    (acts : t.outside.acts = s.outside.acts) (chains : t.outside.world = s.outside.world) :
    Work q world a k t := by
  have still := Nat.le_of_eq now.symm
  cases w with
  | unstarted unstarted started none done =>
    exact .unstarted (stage.trans unstarted) started none (done.same still answers acts chains)
  | idle idle started began done next last =>
    refine .idle (stage.trans idle) started (now ▸ began) (done.same still answers acts chains) ?_ ?_
    · rw [buffer, now]
      exact next
    · rw [now]
      exact last
  | flying own row taken started began f =>
    exact .flying own row taken started (now ▸ began) (f.same now stage answers acts chains)
  | ended ended whole ends le done =>
    exact .ended (stage.trans ended) whole ends (now ▸ le) (done.same still answers acts chains)

end Work

namespace Tracks

variable {q : Setup σ} {world : σ} {a : Agenda} {k : Nat} {s t : State σ}

-- What the worker took was taken by now.
theorem start_of_taken (h : Tracks q world a k s) {i : Nat} {p : Row σ} (before : i < k)
    (here : (a.rows q world)[i]? = some p) : ∃ t, p.start = some t ∧ t ≤ s.now := by
  have l := h.line
  -- The worker was started, and what it took before was answered.
  have behind : (∃ w, a.started = some w ∧ w ≤ s.now) ∧
      ∀ j r, j < i → (a.rows q world)[j]? = some r → ∃ t, r.answered = some t ∧ t ≤ s.now := by
    cases h.work with
    | unstarted _ _ none_ _ => omega
    | idle _ started began done _ _ =>
      exact ⟨⟨_, started, began⟩, fun j r soon => done.past j r (by omega)⟩
    | flying _ _ taken started began f =>
      exact ⟨⟨_, started, began⟩, fun j r soon => f.past j r (by omega)⟩
    | ended _ _ ends le done =>
      rcases latest_eq_some.mp ends with ⟨w, b, started, -, later⟩
      exact ⟨⟨w, started, by omega⟩, fun j r soon => done.past j r (by omega)⟩
  rcases behind with ⟨⟨w, started, began⟩, past⟩
  rcases l.stored i p (by omega) here with ⟨b, accepted, le⟩
  rcases lastAnswer_of_past (Nat.le_trans (Nat.le_of_lt before) l.taken) past with
    ⟨x, answered, soon⟩
  exact ⟨_, a.start_of_row here started accepted answered, by omega⟩

/-- The worker takes the oldest entry. -/
theorem take (h : Tracks q world a k s) (idle : s.stage = .idle) {e : Entry} {rest : List Entry}
    (buffer : s.buffer = e :: rest) : Tracks q world a (k + 1) (s.receive q e rest) := by
  rcases h.work.of_idle idle with ⟨⟨w, started, began⟩, done, next, -⟩
  have entries := h.line.entries
  rw [buffer, List.cons_append] at entries
  rcases Line.entry_of_cons entries with ⟨call, asked, rfl, -⟩
  have here : (a.rows q world)[k]? = some _ := schedule_getElem? asked
  have start := next _ (by rw [buffer]; exact Nat.succ_pos _) here
  have frame := s.receive_frame q call.entry rest
  have now : (s.receive q call.entry rest).now = s.now := by rw [frame.1]
  have events : (s.receive q call.entry rest).events = s.events := by rw [frame.1]
  refine ⟨h.line.take buffer here start, ?_⟩
  -- It sets out on the course that its row has, with the chains as they are.
  rcases Course.alone_eq q call.entry rest s with ⟨own, shares, early, course⟩
  refine Work.flying own _ rfl started (by rw [now]; exact began)
    ⟨frame.2, here, ?_, ?_, ?_, ?_, ?_, ?_, Punctual.take q _ rest s⟩
  · rw [now]
    exact done.past
  · unfold State.answers
    rw [events]
    exact done.answers
  · rw [← done.acts]
    exact shares
  · rw [now, course, Row.course_next start, ← Agenda.rows, done.chains]
    rfl
  · intro x mem
    exact Nat.le_of_eq ((early x mem).trans now.symm)
  · unfold State.receive
    cases call.entry.send <;> exact trivial

-- The submission in flight stays there.
theorem goesOn (h : Tracks q world a k s) (p : Spaced q s) {n i : Nat} {d : Option Happening}
    {o : Surroundings σ} {stage : Stage} (flight : Flight q s n i d o (.on stage))
    (calm : i ≤ s.now ∨ s.granted = 0) : Tracks q world a k { s.after i o with stage := stage } := by
  rcases h.work.of_flight flight.ticket? with ⟨j, own, row, taken, ticket, ⟨w, started, began⟩, f⟩
  have now := f.punctual.le_flight flight
  have instant : max s.now i = i := Nat.max_eq_right now
  have on_time : Punctual ((s.after i o).follow n (.on stage)) :=
    f.punctual.kept (Step.of_flight flight calm)
  rcases flight.course_on f.shares now f.timely with ⟨own', shares, course, added, timely⟩
  refine ⟨h.line.later p ⟨rfl, rfl, rfl, rfl⟩ rfl rfl (Nat.le_max_left _ _) ?_, ?_⟩
  · show max s.now i = s.now ∨ s.granted = 0
    omega
  · refine Work.flying own' row taken started (Nat.le_trans began (Nat.le_max_left _ _))
      ⟨?_, f.here, ?_, f.answers, shares, ?_, ?_, timely, on_time⟩
    · rw [ticket]
      exact flight.ticket?_on
    · exact past_later (Nat.le_max_left _ _) f.past
    · show Course.ofStage q (max s.now i) own' stage = row.course
      rw [instant, course]
      exact f.course
    · intro x mem
      show x.1 ≤ max s.now i
      rcases added x mem with old | new
      · exact Nat.le_trans (f.early x old) (Nat.le_max_left _ _)
      · rw [new]
        exact Nat.le_max_right _ _

-- The submission in flight is answered. The next one that is stored is to be taken
-- at that instant, and if there is none left the work is over then.
theorem isOver (h : Tracks q world a k s) (p : Spaced q s) {n i : Nat} {d : Option Happening}
    {o : Surroundings σ} {r : Response} (flight : Flight q s n i d o (.answered r))
    (calm : i ≤ s.now ∨ s.granted = 0) :
    Tracks q world a k ({ s.after i o with stage := .idle }.answer n r) := by
  rcases h.work.of_flight flight.ticket? with ⟨j, own, row, taken, ticket, ⟨w, started, began⟩, f⟩
  have now := f.punctual.le_flight flight
  have instant : max s.now i = i := Nat.max_eq_right now
  rcases flight.course_over h.line.opened f.shares now f.timely with ⟨course, shares⟩
  rw [f.course] at course
  have close : row.course.close = .answered i r := by rw [course]
  have answered : row.answered = some i := by
    unfold Row.answered
    rw [close]
  have whole := take_add_one_eq f.here
  have line : Line q world a k ({ s.after i o with stage := .idle }.answer n r) := by
    refine h.line.later p ⟨rfl, rfl, rfl, rfl⟩ (State.acceptances_answer n r _)
      (State.rejected_answer n r _) (Nat.le_max_left _ _) ?_
    show max s.now i = s.now ∨ s.granted = 0
    omega
  have done : Done q world a k ({ s.after i o with stage := .idle }.answer n r) := by
    rw [taken]
    refine ⟨?_, ?_, ?_, ?_⟩
    · intro m r' before there
      show ∃ t, r'.answered = some t ∧ t ≤ max s.now i
      by_cases old : m < j
      · exact past_later (Nat.le_max_left _ _) f.past m r' old there
      · rw [show m = j by omega, f.here] at there
        rw [← Option.some.inj there]
        exact ⟨i, answered, Nat.le_max_right _ _⟩
    · rw [State.answers_answer, whole, allAnswers_snoc close, ticket, ← f.answers]
      show (max s.now i, n, r) :: s.answers = _
      rw [instant]
    · show o.acts = _
      rw [shares.acts, whole, allActs_snoc, course]
    · show o.world = _
      rw [← shares.world, chainsAfter_take_succ world f.here, course]
  have last : lastAnswer ((a.rows q world).take k) = some i := by
    rw [taken, lastAnswer_take_succ f.here, answered]
  refine ⟨line, Work.idle rfl started (Nat.le_trans began (Nat.le_max_left _ _)) done ?_ ?_⟩
  · intro r' some_ there
    have stored : 0 < s.buffer.length := some_
    rcases h.line.stored k r' (by omega) there with ⟨b, accepted, le⟩
    show r'.start = some (max s.now i)
    rw [a.start_of_row there started accepted last]
    exact congrArg some (by omega)
  · intro all dropped
    rcases Option.ne_none_iff_exists'.mp dropped with ⟨d, drop⟩
    have le := h.line.dropped d drop
    rw [all, ← a.length_rows q world, List.take_length] at last
    show a.ending q world = some (max s.now i)
    rw [a.ending_eq started drop last]
    exact congrArg some (by omega)

-- The worker goes away at the end of its work.
theorem finish (h : Tracks q world a k s) (p : Spaced q s) (idle : s.stage = .idle)
    (buffer : s.buffer = []) (held : s.held = false) (waiters : s.waiters = []) :
    Tracks q world a k (s.leave .finished) := by
  rcases h.work.of_idle idle with ⟨⟨w, started, began⟩, done, -, last⟩
  have amount := h.line.amount
  have dropped : a.dropped ≠ none := by
    intro none_
    have kept := h.line.held
    rw [held, none_] at kept
    exact absurd kept Bool.noConfusion
  have whole : k = a.calls.length := by
    rw [buffer, waiters] at amount
    exact amount
  -- Nobody is left to be told anything.
  have nobody : s.refusals s.inLine ++ s.replies (.failed .missingResult) s.inHand = [] := by
    simp only [State.inLine, State.inHand, waiters, idle, buffer]
    rfl
  rcases s.leave_shape .finished with ⟨m, shape⟩
  rw [nobody] at shape
  rw [shape]
  refine ⟨h.line.later p ⟨rfl, rfl, buffer.symm, waiters.symm⟩ rfl rfl
    (Nat.le_refl _) (Or.inl rfl), ?_⟩
  exact Work.ended rfl whole (last whole dropped) (Nat.le_refl _)
    (done.same (Nat.le_refl _) rfl rfl rfl)

-- A submission that takes the worker down is one whose course crashes.
theorem crashes (h : Tracks q world a k s) {n i : Nat} {d : Option Happening} {o : Surroundings σ}
    {text : String} (flight : Flight q s n i d o (.crash text)) :
    ∃ j r, j < k ∧ (a.rows q world)[j]? = some r ∧ r.course.close = .crashed i text := by
  rcases h.work.of_flight flight.ticket? with ⟨j, own, row, taken, -, -, f⟩
  refine ⟨j, row, by omega, f.here, ?_⟩
  rw [← f.course]
  exact flight.course_crash f.shares (f.punctual.le_flight flight) f.timely

-- Whoever gets a place that is free now is accepted now: it asks now, or has waited for
-- a place that became free now.
theorem accepted_now (h : Tracks q world a k s) {c : Call} (line : List Call)
    (room : s.buffer.length < q.places) (asked : c.asked ≤ s.now)
    (waited : c.asked < s.now → c ∈ a.calls.drop (k + s.buffer.length)) {r : Row σ}
    (here : ((a.accept (k + s.buffer.length) c line).rows q world)[k + s.buffer.length]? =
      some r) : r.accepted = some s.now := by
  have amount := h.line.amount
  have bound : k + s.buffer.length ≤ a.calls.length := by omega
  have itself := a.getElem?_accept c line bound
  rcases Nat.lt_or_ge (k + s.buffer.length) q.places with early | full
  · -- Nobody has waited yet.
    have now : ¬c.asked < s.now := by
      intro before
      have some_ : s.waiters ≠ [] := by
        rw [h.line.split.2]
        intro nobody
        have waits := waited before
        rw [List.map_eq_nil_iff.mp nobody] at waits
        exact absurd waits List.not_mem_nil
      exact absurd (h.line.waited some_) (Nat.not_le_of_lt early)
    rcases Agenda.accepted_of_room early here with ⟨call, there, accepted⟩
    rw [accepted, ← Option.some.inj (itself.symm.trans there)]
    exact congrArg some (by omega)
  · have places := q.places_pos
    rcases a.exists_row q world (i := k + s.buffer.length - q.places) (by omega) with ⟨p, there⟩
    rcases h.start_of_taken (by omega) there with ⟨t, start, le⟩
    have before := (a.getElem?_rows_accept c line bound
      (Nat.sub_lt_self places full)).trans there
    rcases Agenda.accepted_of_full full here before with ⟨call, there', accepted⟩
    rw [accepted, ← Option.some.inj (itself.symm.trans there'), start]
    refine congrArg some ?_
    rcases Nat.lt_or_ge c.asked s.now with earlier | now
    · have recent := h.line.recent c (waited earlier) earlier _ p (by omega) (by omega) there
      have same : t = s.now := Option.some.inj (start.symm.trans recent)
      omega
    · omega

/-- A caller is accepted. If the worker waits, the entry is to be taken now. -/
theorem accepts (h : Tracks q world a k s) {c : Call} {line : List Call}
    (room : s.buffer.length < q.places) (alive : s.stage.ending? = none)
    (asked : c.asked ≤ s.now)
    (waited : c.asked < s.now → c ∈ a.calls.drop (k + s.buffer.length))
    (others : line ⊆ a.calls.drop (k + s.buffer.length))
    (queue : t.shutdown = s.shutdown ∧ t.held = s.held ∧ t.now = s.now ∧
      t.buffer = s.buffer ++ [c.entry] ∧ t.waiters = line.map Call.entry)
    (told : t.acceptances = (s.now, c.ticket) :: s.acceptances ∧ t.rejected = s.rejected ∧
      t.answers = s.answers)
    (work : t.stage = s.stage ∧ t.outside.acts = s.outside.acts ∧
      t.outside.world = s.outside.world) :
    Tracks q world (a.accept (k + s.buffer.length) c line) k t := by
  rcases told with ⟨acceptances, rejected, answers⟩
  rcases work with ⟨stage, acts, chains⟩
  have amount := h.line.amount
  have bound : k + s.buffer.length ≤ a.calls.length := by omega
  have rows : ((a.accept (k + s.buffer.length) c line).rows q world).take k =
      (a.rows q world).take k := a.take_rows_accept c line bound (Nat.le_add_right k _)
  have now := fun r => h.accepted_now line (r := r) room asked waited
  refine ⟨h.line.accepts queue acceptances rejected asked others now, ?_⟩
  have clock : t.now = s.now := queue.2.2.1
  have buffer : t.buffer = s.buffer ++ [c.entry] := queue.2.2.2.1
  have still := Nat.le_of_eq clock.symm
  cases h.work with
  | unstarted unstarted started none done =>
    exact .unstarted (stage.trans unstarted) started none
      ((done.of_take rows).same still answers acts chains)
  | idle idle started began done next last =>
    refine .idle (stage.trans idle) started (clock ▸ began)
      ((done.of_take rows).same still answers acts chains) ?_ ?_
    · rw [clock]
      intro r _ here
      by_cases stored : 0 < s.buffer.length
      · exact next r stored ((a.getElem?_rows_accept c line bound (by omega)).symm.trans here)
      · -- The entry is the first that is stored.
        have there (i : Nat) (same : i = k) : ((a.accept (k + s.buffer.length) c line).rows q
            world)[i]? = some r := same ▸ here
        have accepted := now r (there _ (by omega))
        rcases lastAnswer_of_past h.line.taken done.past with ⟨x, answered, le⟩
        rw [← rows] at answered
        rw [Agenda.start_of_row here started accepted answered]
        exact congrArg some (by omega)
    · intro all _
      have longer : (a.accept (k + s.buffer.length) c line).calls.length =
          k + s.buffer.length + (line.length + 1) := by
        show (a.calls.take (k + s.buffer.length) ++ c :: line).length = _
        rw [List.length_append, List.length_take_of_le bound, List.length_cons]
      omega
  | @flying w j own row taken started began f =>
    have flying := f.of_take (a.take_rows_accept c line bound (by omega))
      (a.getElem?_rows_accept c line bound (by omega))
    exact .flying own row taken started (clock ▸ began)
      (flying.same clock stage answers acts chains)
  | ended ended whole ends le done =>
    rw [ended] at alive
    exact absurd alive (by simp only [Stage.ending?, reduceCtorEq, not_false_eq_true])

end Tracks

end Queue

end TxRelay
