import TxRelay.Proofs.Queue.Move

/-!
# The Chronicle of a Run

A state remembers what callers got to know and what was asked of the chains. It
does not remember what the chains replied, nor on behalf of which submission
they were asked, nor whether a shutdown came before or after an answer that was
given at the same instant. Statements that an answer is true need all of that.

A chronicle is a run that keeps its whole history: every event and every act,
what send operations and lookups came to, and when the queue was closed and the
worker went away. What is written down is read off each step as it is taken;
the state runs as it does without a chronicle (`Chronicle.state_play`).

## Main definitions

* `Queue.Happening`: Something that happened.
* `Queue.State.deed?`: What a step of the worker brings to light.
* `Queue.State.entries`: What a move adds to the history.
* `Queue.Chronicle`: A state with its history.

## Theorems

* `Queue.Chronicle.state_play`: Keeping a history changes nothing.
* `Queue.State.entries_eq`: The entries of a move, from what it added.
-/

namespace TxRelay

namespace Queue

/-- Something that happened in a run. -/
inductive Happening where
  /-- The worker was started. -/
  | started
  /-- A shutdown was asked for, for the first time. -/
  | closed
  /-- A caller got to know something. -/
  | told (e : Event)
  /-- Something was done on behalf of a caller. -/
  | did (a : Act)
  /-- The send operation of a submission ended. -/
  | returned (ticket : Nat) (outcome : Outcome Submitted)
  /-- A lookup was made for a submission. -/
  | asked (ticket : Nat) (tx : Submitted)
  /-- A lookup made for a submission at some instant was answered. -/
  | heard (ticket : Nat) (tx : Submitted) (made : Nat) (outcome : Outcome Bool)
  /-- The worker went away. -/
  | left (how : Ending)
  deriving DecidableEq

/-- What was put in front of an older list. -/
def newest {α : Type} (new old : List α) : List α :=
  new.take (new.length - old.length)

-- What was put in front is found.
theorem newest_append {α : Type} (l old : List α) : newest (l ++ old) old = l := by
  unfold newest
  rw [List.length_append, Nat.add_sub_cancel, List.take_left]

namespace State

variable {σ : Type}

/-- What the worker's next step up to an instant brings to light: how a send
    operation ended, that a lookup is made, how a lookup ended. -/
def deed? (q : Setup σ) (limit : Nat) (s : State σ) : Option Happening :=
  match s.stage with
  | .sending ticket (.direct (.arriving instant outcome)) =>
    if instant ≤ limit then some (.returned ticket outcome) else none
  | .sending ticket (.relay run) =>
    if run.due ≤ limit then
      match (run.fire q.broadcast s.outside).1 with
      | .inl outcome => some (.returned ticket outcome)
      | .inr _ => none
    else none
  | .confirming ticket _ wait =>
    -- A shutdown ends the wait, whatever else is due.
    if s.shutdown then none
    else if wait.due ≤ limit then
      match wait.next with
      | .tick _ => some (.asked ticket wait.tx)
      | .answer _ outcome => some (.heard ticket wait.tx wait.since outcome)
      | .giveUp _ => none
    else none
  | _ => none

/-- What a move brings to light. Only moves of the worker do. -/
def deedOf? (q : Setup σ) (m : Move) (s : State σ) : Option Happening :=
  match m with
  | .work => s.deed? q s.now
  | .call (.advance span) =>
    if (s.work? q s.now).isSome || 0 < s.granted then none else s.deed? q (s.now + span)
  | _ => none

/-- What a move begins. -/
def openings (s t : State σ) : List Happening :=
  (match s.stage, t.stage with
    | .unstarted, .idle => [.started]
    | _, _ => []) ++
  match s.lifecycle, t.lifecycle with
    | .running, .stopping => [.closed]
    | _, _ => []

/-- What a move ends. -/
def endings (s t : State σ) : List Happening :=
  match s.stage.ending?, t.stage.ending? with
  | none, some how => [.left how]
  | _, _ => []

/-- Events in a history. -/
def toldAll (events : List (Nat × Event)) : List (Nat × Happening) :=
  events.map fun e => (e.1, .told e.2)

/-- Acts in a history. -/
def didAll (acts : List (Nat × Act)) : List (Nat × Happening) :=
  acts.map fun a => (a.1, .did a.2)

/-- What a move from one state to another adds to the history, the latest
    first. What the worker found out comes before what it told, and it leaves
    after it told everybody. -/
def entries (d : Option Happening) (s t : State σ) : List (Nat × Happening) :=
  ((endings s t).map fun h => (t.now, h)) ++ toldAll (newest t.events s.events) ++
    didAll (newest t.outside.acts s.outside.acts) ++
    ((d.toList ++ openings s t).map fun h => (t.now, h))

/-- The entries of a move, from what it added. -/
theorem entries_eq {d : Option Happening} {s t : State σ} {e : List (Nat × Event)}
    {a : List (Nat × Act)} {first last : List Happening} (events : t.events = e ++ s.events)
    (acts : t.outside.acts = a ++ s.outside.acts) (ends : endings s t = last)
    (opens : openings s t = first) :
    entries d s t =
      (last.map fun h => (t.now, h)) ++ toldAll e ++ didAll a ++
        ((d.toList ++ first).map fun h => (t.now, h)) := by
  unfold entries
  rw [events, acts, newest_append, newest_append, ends, opens]

-- A worker that was started before is not started again.
theorem openings_eq_nil {s t : State σ} (stage : s.stage ≠ .unstarted)
    (lifecycle : t.lifecycle = s.lifecycle ∨ t.lifecycle = .stopped) : openings s t = [] := by
  have nobody : (match s.stage, t.stage with
      | .unstarted, .idle => [Happening.started]
      | _, _ => []) = [] := by
    split
    · rename_i unstarted _
      exact absurd unstarted stage
    · rfl
  unfold openings
  rw [nobody]
  rcases lifecycle with same | stopped
  · rw [same]
    cases s.lifecycle <;> rfl
  · rw [stopped]
    cases s.lifecycle <;> rfl

-- A worker that stays has no end.
theorem endings_eq_nil {s t : State σ} (alive : t.stage.ending? = none) : endings s t = [] := by
  unfold endings
  rw [alive]
  cases s.stage.ending? <;> rfl

-- A worker that goes away has an end.
theorem endings_of_left {s t : State σ} {how : Ending} (alive : s.stage.ending? = none)
    (gone : t.stage.ending? = some how) : endings s t = [.left how] := by
  unfold endings
  rw [alive, gone]

-- A move that changes nothing has no entries.
theorem entries_self (s : State σ) : entries none s s = [] := by
  have endings : endings s s = [] := by
    unfold endings
    split
    · rename_i none some
      rw [none] at some
      exact absurd some (by simp only [reduceCtorEq, not_false_eq_true])
    · rfl
  have openings : openings s s = [] := by
    unfold openings
    cases s.stage <;> cases s.lifecycle <;> rfl
  exact entries_eq (e := []) (a := []) rfl rfl endings openings

end State

/-- A state with its history. -/
structure Chronicle (σ : Type) where
  /-- The state. -/
  state : State σ
  /-- What happened and when, the latest first. -/
  history : List (Nat × Happening)

namespace Chronicle

variable {σ : Type}

/-- A queue nobody used yet. -/
def fresh (world : σ) : Chronicle σ :=
  ⟨.fresh (.fresh world), []⟩

/-- Makes a move and writes down what happened. -/
def move (q : Setup σ) (m : Move) (c : Chronicle σ) : Chronicle σ :=
  let t := c.state.move q m
  ⟨t, State.entries (c.state.deedOf? q m) c.state t ++ c.history⟩

/-- Makes several moves in order. -/
def play (q : Setup σ) (moves : List Move) (c : Chronicle σ) : Chronicle σ :=
  moves.foldl (fun d m => d.move q m) c

/-- Keeping a history changes nothing. -/
theorem state_play (q : Setup σ) (moves : List Move) (c : Chronicle σ) :
    (c.play q moves).state = c.state.play q moves := by
  induction moves generalizing c with
  | nil => rfl
  | cons m rest ih => exact ih (c.move q m)

-- What every move keeps, a run keeps.
theorem play_induction (q : Setup σ) {P : Chronicle σ → Prop}
    (keeps : ∀ c m, P c → P (c.move q m)) (moves : List Move) (c : Chronicle σ)
    (start : P c) : P (c.play q moves) := by
  induction moves generalizing c with
  | nil => exact start
  | cons m rest ih => exact ih (c.move q m) (keeps c m start)

end Chronicle

end Queue

end TxRelay
