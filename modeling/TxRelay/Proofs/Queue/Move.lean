import TxRelay.Queue.Command

/-!
# Moves

A run made of commands lets everything happen that can happen at an instant
before the next command is given. Callers and the worker need not be so
patient: a shutdown may fall between two steps of the worker, and a caller may
leave after it was handed a place and before it stored its entry.

A move is one thing that happens and nothing that follows from it. Moves may
come in any order, and of several callers who were handed places any may store
its entry first, so a list of moves is a run under any schedule. Only time is
not free: it passes no further than to the worker's next step, and not at all
while something can happen now. Runs made of commands are runs made of moves
(`Queue.Runs`), so what holds after every list of moves holds after every list
of commands.

## Main definitions

* `Queue.Move`: One thing that happens.
* `Queue.State.pass`: Time passes.
* `Queue.State.move`: Makes a move.
* `Queue.State.play`: Makes several in order.
* `Queue.State.Along`: Something holds of every move of a run.
* `Queue.Setup.mute`, `Queue.Setup.narrow`: Queues whose chains never answer.

## Theorems

* `Queue.State.storeAt_eq`: What storing an entry does.
* `Queue.State.play_append`: A run goes on where the one before it ended.
* `Queue.State.play_induction`: What every move keeps, a run keeps.
* `Queue.State.along_append`: What holds of the moves of a run holds of those of its
  parts.
* `Queue.State.along_induction`: What the moves of a run keep, the run keeps.
-/

namespace TxRelay

namespace Queue

/-- One thing that happens to a queue, without what follows from it. -/
inductive Move where
  /-- Something is done from outside. Time that is let pass passes up to the
      worker's next step. -/
  | call (c : Command)
  /-- The worker takes a step that is due. -/
  | work
  /-- A caller who was handed a place stores its entry. It is given by the
      number of callers before it in line. -/
  | store (before : Nat)

namespace State

variable {σ : Type}

/-- Time passes up to an instant, or up to the worker's next step, which is
    taken. It does not pass while something can happen now. -/
def pass (q : Setup σ) (limit : Nat) (s : State σ) : State σ :=
  if (s.work? q s.now).isSome || 0 < s.granted then s
  else (s.work? q limit).getD (s.moveTo limit)

/-- The caller with some others before it in line stores its entry if it was
    handed a place. The places of the others stay theirs. -/
def storeAt (before : Nat) (s : State σ) : State σ :=
  match s.waiters[before]? with
  | some e =>
    if before < s.granted then
      store e { s with waiters := s.waiters.eraseIdx before, granted := s.granted - 1 }
    else s
  | none => s

/-- A caller who was handed a place stores its entry. -/
theorem storeAt_eq {front : List Entry} {e : Entry} {rest : List Entry} {s : State σ}
    (granted : front.length < s.granted) (waiters : s.waiters = front ++ e :: rest) :
    s.storeAt front.length =
      store e { s with waiters := front ++ rest, granted := s.granted - 1 } := by
  have here : s.waiters[front.length]? = some e := by
    rw [waiters, List.getElem?_append_right (Nat.le_refl _), Nat.sub_self]
    rfl
  have others : s.waiters.eraseIdx front.length = front ++ rest := by
    rw [waiters, List.eraseIdx_append_of_length_le (Nat.le_refl _), Nat.sub_self]
    rfl
  unfold storeAt
  rw [here]
  dsimp only
  rw [if_pos granted, others]

/-- Where nobody was handed a place, nobody stores an entry. -/
theorem storeAt_of_none {before : Nat} {s : State σ}
    (none : s.waiters.length ≤ before ∨ s.granted ≤ before) : s.storeAt before = s := by
  unfold storeAt
  rcases none with nobody | unplaced
  · rw [List.getElem?_eq_none nobody]
  · cases s.waiters[before]? with
    | none => rfl
    | some e => exact if_neg (Nat.not_lt_of_le unplaced)

/-- A caller there was handed a place, or there is none. -/
theorem storeAt_cases (before : Nat) (s : State σ) :
    (s.waiters.length ≤ before ∨ s.granted ≤ before) ∨
      ∃ front e rest, front.length = before ∧ before < s.granted ∧
        s.waiters = front ++ e :: rest := by
  rcases Nat.lt_or_ge before s.waiters.length with inside | nobody
  · rcases Nat.lt_or_ge before s.granted with granted | unplaced
    · refine Or.inr ⟨s.waiters.take before, s.waiters[before], s.waiters.drop (before + 1),
        List.length_take_of_le (Nat.le_of_lt inside), granted, ?_⟩
      rw [List.getElem_cons_drop, List.take_append_drop]
    · exact Or.inl (Or.inr unplaced)
  · exact Or.inl (Or.inl nobody)

/-- Storing an entry is nothing to the worker, and nobody asks for anything by it. -/
theorem storeAt_frame (before : Nat) (s : State σ) :
    (s.storeAt before).stage = s.stage ∧ (s.storeAt before).shutdown = s.shutdown ∧
      (s.storeAt before).asked = s.asked ∧ (s.storeAt before).held = s.held := by
  unfold storeAt
  split
  · split <;> exact ⟨rfl, rfl, rfl, rfl⟩
  · exact ⟨rfl, rfl, rfl, rfl⟩

/-- Does one thing, and nothing that follows from it. -/
def call (q : Setup σ) (c : Command) (s : State σ) : State σ :=
  match c with
  | .start => s.start
  | .enqueue send => if s.held then s.enqueue q.places send else s
  | .advance span => s.pass q (s.now + span)
  | .stop => if s.held then s.stop.2 else s
  | .lose => s.abort s.loss
  | .dropHandle => s.dropHandle
  | .withdraw ticket => s.withdraw ticket

/-- Makes a move. A move that is not possible changes nothing. -/
def move (q : Setup σ) (m : Move) (s : State σ) : State σ :=
  match m with
  | .call c => s.call q c
  | .work => (s.work? q s.now).getD s
  | .store before => s.storeAt before

/-- Makes several moves in order. -/
def play (q : Setup σ) (moves : List Move) (s : State σ) : State σ :=
  moves.foldl (fun t m => t.move q m) s

/-- A run goes on where the one before it ended. -/
theorem play_append (q : Setup σ) (first second : List Move) (s : State σ) :
    s.play q (first ++ second) = (s.play q first).play q second :=
  List.foldl_append

/-- What every move keeps, a run keeps. -/
theorem play_induction (q : Setup σ) {P : State σ → Prop}
    (keeps : ∀ s m, P s → P (s.move q m)) (moves : List Move) (s : State σ)
    (start : P s) : P (s.play q moves) := by
  induction moves generalizing s with
  | nil => exact start
  | cons m rest ih => exact ih (s.move q m) (keeps s m start)

/-- Something holds of every move of a run, where it is made. -/
def Along (q : Setup σ) (P : State σ → Move → Prop) : List Move → State σ → Prop
  | [], _ => True
  | m :: rest, s => P s m ∧ Along q P rest (s.move q m)

section Along

variable {q : Setup σ} {P : State σ → Move → Prop}

/-- What holds of the moves of a run holds of those of its parts. -/
theorem along_append {first second : List Move} {s : State σ} :
    s.Along q P (first ++ second) ↔
      s.Along q P first ∧ (s.play q first).Along q P second := by
  induction first generalizing s with
  | nil => exact ⟨fun along => ⟨trivial, along⟩, And.right⟩
  | cons m rest ih =>
    show P s m ∧ (s.move q m).Along q P (rest ++ second) ↔
      (P s m ∧ (s.move q m).Along q P rest) ∧ ((s.move q m).play q rest).Along q P second
    rw [ih, and_assoc]

-- What follows from something that holds of every move holds of every move.
theorem Along.imp {Q : State σ → Move → Prop} (follows : ∀ s m, P s m → Q s m)
    {moves : List Move} {s : State σ} (along : s.Along q P moves) : s.Along q Q moves := by
  induction moves generalizing s with
  | nil => trivial
  | cons m rest ih => exact ⟨follows s m along.1, ih along.2⟩

/-- What the moves of a run keep, the run keeps. -/
theorem along_induction {I : State σ → Prop} (keeps : ∀ s m, P s m → I s → I (s.move q m))
    {moves : List Move} {s : State σ} (along : s.Along q P moves) (start : I s) :
    I (s.play q moves) := by
  induction moves generalizing s with
  | nil => exact start
  | cons m rest ih => exact ih along.2 (keeps s m along.1 start)

end Along

end State

/-- A queue with one place whose chains never answer. -/
def Setup.mute : Setup Unit :=
  { capacity := 1, plan := ⟨1, 1⟩, policy := ⟨1, 0, 1⟩
    lookup := fun _ _ world => (.never, world)
    broadcast := fun _ _ world => (.never, world) }

/-- The same with two places. -/
def Setup.narrow : Setup Unit :=
  { Setup.mute with capacity := 2 }

end Queue

end TxRelay
