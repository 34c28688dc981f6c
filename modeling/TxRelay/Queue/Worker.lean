import TxRelay.Queue.Basic

/-!
# The Worker

The queue's only consumer. It takes the oldest entry, runs its send operation,
and if that gave a transaction waits for its confirmation. Then it answers and
takes the next entry. Before it takes one it looks for a shutdown, which makes
it answer everything that is stored and go away. It also goes away when
nothing is stored and nobody could store anything any more.

A shutdown does not touch a send operation under way, but it ends a wait for
confirmation at once, and the submission counts as submitted.

## Main definitions

* `Queue.State.receive`: Takes the oldest entry.
* `Queue.State.concludeSend`, `Queue.State.concludeWait`: The end of a send
  operation and of a wait.
* `Queue.State.drain`: Answers everything after a shutdown.
* `Queue.State.work?`: The worker's next step up to an instant.
-/

namespace TxRelay

namespace Queue

namespace State

variable {σ : Type}

/-- Takes an entry from the buffer and begins its send operation. The place it
    frees is handed to the first in line who has none. -/
def receive (q : Setup σ) (e : Entry) (rest : List Entry) (s : State σ) : State σ :=
  let outside := (s.outside.measure fun m => m.setQueueDepth rest.length).note s.now (.send e.ticket)
  -- Nobody is handed a place who does not wait for one.
  let t := { s with buffer := rest, granted := min (s.granted + 1) s.waiters.length }
  match e.send with
  | .direct reply =>
    { t with stage := .sending e.ticket (.direct (reply.calledAt s.now)), outside := outside }
  | .relay chain raw =>
    let r := Broadcast.Run.begin q.broadcast q.policy s.now chain raw outside
    { t with stage := .sending e.ticket (.relay r.1), outside := r.2 }

/-- The submission was seen leaving the pending pool, or the queue closed. -/
def confirm (ticket began : Nat) (tx : Submitted) (s : State σ) : State σ :=
  { s with stage := .idle }
    |>.measure (fun m => m.recordConfirmed tx.chain (.ofMillis (s.now - began)))
    |>.answer ticket (.submitted tx)

/-- A send operation ended. A transaction is waited for, unless the queue
    closed. -/
def concludeSend (q : Setup σ) (ticket : Nat) (outcome : Outcome Submitted) (s : State σ) :
    State σ :=
  match outcome with
  | .value tx =>
    -- The transaction is with the chain, and a shutdown does not wait for more.
    if s.shutdown then s.confirm ticket s.now tx
    else if h : 0 < q.plan.interval then
      { s with stage := .confirming ticket s.now (.begin q.plan h s.now tx) }
    else s.leave (.crashed Confirmation.zeroIntervalText)
  | .failure f =>
    { s with stage := .idle }
      |>.measure Metrics.recordSendFailure
      |>.answer ticket (.failed f)
  | .crash text => s.leave (.crashed text)

/-- A wait for confirmation ended. -/
def concludeWait (ticket began : Nat) (tx : Submitted) (v : Confirmation.Verdict) (s : State σ) :
    State σ :=
  match v with
  | .settled => s.confirm ticket began tx
  | .missing =>
    { s with stage := .idle }
      |>.measure (fun m => m.recordUnconfirmed tx.chain)
      |>.answer ticket (.failed (.transactionMissing tx.hash))
  | .crashed text => s.leave (.crashed text)

/-- Answers everything that is stored, and goes away. -/
def drain (s : State σ) : State σ :=
  let t := { s.answerAll (.failed .queueClosed) (s.buffer.map Entry.ticket) with buffer := [] }
  (t.measure fun m => m.recordDrained s.buffer.length).leave .finished

/-- Moves the clock forward to an instant. -/
def moveTo (instant : Nat) (s : State σ) : State σ :=
  { s with now := max s.now instant }

/-- The worker's next step, if it comes not later than an instant. -/
def work? (q : Setup σ) (limit : Nat) (s : State σ) : Option (State σ) :=
  match s.stage with
  | .unstarted => none
  | .ended _ => none
  | .idle =>
    -- Before it takes another entry the worker looks for a shutdown.
    if s.shutdown then some s.drain
    else
      match s.buffer with
      | e :: rest => some (s.receive q e rest)
      -- Callers in line hold the queue as well.
      | [] => if !s.held && s.waiters.isEmpty then some (s.leave .finished) else none
  | .sending ticket (.direct answer) =>
    match answer with
    | .never => none
    | .arriving instant outcome =>
      if instant ≤ limit then some ((s.moveTo instant).concludeSend q ticket outcome) else none
  -- A send operation is finished even if a shutdown was asked for meanwhile.
  | .sending ticket (.relay run) =>
    if run.due ≤ limit then
      let r := run.fire q.broadcast s.outside
      let t := { s.moveTo run.due with outside := r.2 }
      match r.1 with
      | .inl outcome => some (t.concludeSend q ticket outcome)
      | .inr next => some { t with stage := .sending ticket (.relay next) }
    else none
  | .confirming ticket began wait =>
    if s.shutdown then some (s.confirm ticket began wait.tx)
    else if wait.due ≤ limit then
      let r := wait.fire q.lookup s.outside
      let t := { s.moveTo wait.due with outside := r.2 }
      match r.1 with
      | .inl verdict => some (t.concludeWait ticket began wait.tx verdict)
      | .inr next => some { t with stage := .confirming ticket began next }
    else none

end State

end Queue

end TxRelay
