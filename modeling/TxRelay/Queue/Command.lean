import TxRelay.Queue.Run

/-!
# What Happens to a Queue

Everything that can be done to a queue from outside, one thing after another.
Between two of them everything happens that can happen at that instant, and
time passes only where it is said to. A list of commands is therefore a whole
run, with any number of callers who come and go at any times, and what holds
after every list holds in every run.

A queue whose handle was given up cannot be asked for anything any more, and a
worker that is gone cannot be lost again; such commands do nothing.

## Main definitions

* `Queue.Command`: One thing that is done.
* `Queue.State.perform`: Does it.
* `Queue.State.run`: Does several things in order.

## Theorems

* `Queue.State.run_append`: A run goes on where the one before it ended.
* `Queue.State.run_induction`: What every command keeps, a run keeps.
-/

namespace TxRelay

namespace Queue

/-- One thing that is done to a queue. -/
inductive Command where
  /-- The worker is started. -/
  | start
  /-- A caller asks for its submission to be taken. -/
  | enqueue (send : Send)
  /-- Time passes. -/
  | advance (span : Nat)
  /-- A shutdown is asked for. -/
  | stop
  /-- The worker is lost: dropped before its start, or aborted after it. -/
  | lose
  /-- The handle is given up. -/
  | dropHandle
  /-- A caller leaves. -/
  | withdraw (ticket : Nat)

namespace State

variable {σ : Type}

/-- How a worker is lost at a stage. -/
def loss (s : State σ) : Ending :=
  match s.stage with
  | .unstarted => .discarded
  | _ => .aborted

/-- Does one thing, and lets everything happen that can happen then. -/
def perform (q : Setup σ) (c : Command) (s : State σ) : State σ :=
  match c with
  | .start => s.start.settle q
  | .enqueue send => if s.held then (s.enqueue q.places send).settle q else s
  | .advance span => s.advanceTo q (s.now + span)
  | .stop => if s.held then s.stop.2.settle q else s
  | .lose => (s.abort s.loss).settle q
  | .dropHandle => s.dropHandle.settle q
  | .withdraw ticket => (s.withdraw ticket).settle q

/-- Does several things in order. -/
def run (q : Setup σ) (commands : List Command) (s : State σ) : State σ :=
  commands.foldl (fun t c => t.perform q c) s

/-- A run goes on where the one before it ended. -/
theorem run_append (q : Setup σ) (first second : List Command) (s : State σ) :
    s.run q (first ++ second) = (s.run q first).run q second :=
  List.foldl_append

/-- What every command keeps, a run keeps. -/
theorem run_induction (q : Setup σ) {P : State σ → Prop}
    (keeps : ∀ s c, P s → P (s.perform q c)) (commands : List Command) (s : State σ)
    (start : P s) : P (s.run q commands) := by
  induction commands generalizing s with
  | nil => exact start
  | cons c rest ih => exact ih (s.perform q c) (keeps s c start)

end State

end Queue

end TxRelay
