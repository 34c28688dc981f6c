import TxRelay.Broadcast
import TxRelay.Confirmation

/-!
# The Submission Queue

Callers hand the queue send operations. One worker runs them strictly one at a
time in the order of acceptance, waits for each broadcast transaction to leave
the pending pool, and answers every accepted submission.

The queue has a bounded number of places. A caller who finds one stores its
entry at once; a caller who finds none waits in line, and the worker, by
taking an entry, hands the freed place to the first in line. Between being
handed a place and storing its entry such a caller can still be turned away.

Acceptance is one step: an entry is stored and will be answered, or the caller
is told that the queue was closed. A shutdown releases everybody who waits for
a place. The worker leaving — at the end of its work, by a crash, or because
it was dropped — leaves nothing behind: what it was working on and what was
stored is answered as missing, and the queue is closed.

This module holds the state and what callers can do to it; the worker is in
`Queue.Worker`, the clock in `Queue.Run`.

## Main definitions

* `Queue.Setup`: What a queue is made for.
* `Queue.refusal?`: Why a queue cannot be made.
* `Queue.State`: The queue, its worker and the callers.
* `Queue.State.enqueue`, `withdraw`, `stop`, `dropHandle`: What callers do.
* `Queue.State.leave`: The worker goes away.
-/

namespace TxRelay

namespace Queue

/-- The life of a queue. -/
inductive Lifecycle where
  /-- Submissions are taken and processed. -/
  | running
  /-- A shutdown was asked for. -/
  | stopping
  /-- The worker is gone. -/
  | stopped
  deriving DecidableEq

namespace Lifecycle

/-- The name under which a lifecycle is shown. -/
def name : Lifecycle → String
  | .running => "running"
  | .stopping => "stopping"
  | .stopped => "stopped"

end Lifecycle

/-- What the worker has to do to broadcast a transaction. -/
inductive Send where
  /-- An operation of the caller's own. -/
  | direct (reply : Reply Submitted)
  /-- Broadcasting a signed transaction. -/
  | relay (chain : ChainId) (raw : Bytes)

/-- A submission in the queue. -/
structure Entry where
  /-- The number of the call. -/
  ticket : Nat
  /-- The operation. -/
  send : Send

/-- A send operation under way. -/
inductive Sending where
  /-- The caller's own operation. -/
  | direct (answer : Answer Submitted)
  /-- A broadcast. -/
  | relay (run : Broadcast.Run)

/-- How the worker went away. -/
inductive Ending where
  /-- Its work was over. -/
  | finished
  /-- An operation took it down. -/
  | crashed (text : String)
  /-- It was stopped from outside. -/
  | aborted
  /-- It was dropped before it started. -/
  | discarded
  deriving DecidableEq

/-- What the worker does between two of its steps. -/
inductive Stage where
  /-- It was not started yet. -/
  | unstarted
  /-- It waits for an entry. -/
  | idle
  /-- It runs the send operation of a submission. -/
  | sending (ticket : Nat) (sending : Sending)
  /-- It waits for the confirmation of a submission, since some instant. -/
  | confirming (ticket : Nat) (began : Nat) (wait : Confirmation.Wait)
  /-- It is gone. -/
  | ended (how : Ending)

namespace Stage

/-- The submission in flight. -/
def ticket? : Stage → Option Nat
  | .sending ticket _ => some ticket
  | .confirming ticket _ _ => some ticket
  | _ => none

/-- How the worker went away, if it did. -/
def ending? : Stage → Option Ending
  | .ended how => some how
  | _ => none

end Stage

/-- What a caller gets to know. -/
inductive Event where
  /-- The submission was accepted. -/
  | accepted (ticket : Nat)
  /-- The queue was closed. -/
  | rejected (ticket : Nat)
  /-- The submission was answered. -/
  | answered (ticket : Nat) (r : Response)
  /-- The submission was answered, but its caller had left. -/
  | unheard (ticket : Nat) (r : Response)
  deriving DecidableEq

/-- The number of places of a queue that asks for some. A queue without any
    would be of no use. -/
def placesFor (capacity : Nat) : Nat := max 1 capacity

/-- The most places that a queue can have. -/
def maxPlaces : Nat := Nat.pow 2 61 - 1

/-- Why a queue cannot be made that asks for too many places. -/
def refusal? (capacity : Nat) : Option String :=
  if placesFor capacity ≤ maxPlaces then none
  else
    some ("a semaphore may not have more than MAX_PERMITS permits (" ++ toString maxPlaces ++ ")")

/-- What a queue is made for: its size, its pace and the chains behind it. -/
structure Setup (σ : Type) where
  /-- The number of places asked for. -/
  capacity : Nat
  /-- How to wait for confirmation. -/
  plan : Confirmation.Plan
  /-- How to broadcast. -/
  policy : Broadcast.Policy
  /-- Looking a transaction up. -/
  lookup : Lookup σ
  /-- Handing a transaction to a chain. -/
  broadcast : Broadcaster σ

/-- The number of places. -/
def Setup.places {σ : Type} (q : Setup σ) : Nat := placesFor q.capacity

/-- The queue, its worker and the callers. -/
structure State (σ : Type) where
  /-- The clock. -/
  now : Nat
  /-- How many submissions were asked for. -/
  asked : Nat
  /-- The life of the queue, as it is shown. -/
  lifecycle : Lifecycle
  /-- Whether a shutdown was asked for. -/
  shutdown : Bool
  /-- Whether somebody other than a waiting caller still holds the queue. -/
  held : Bool
  /-- What the worker does. -/
  stage : Stage
  /-- The stored entries, the oldest first. -/
  buffer : List Entry
  /-- The entries of the callers who wait for a place, the first in line
      first. -/
  waiters : List Entry
  /-- How many of them were handed a place and have not stored their entry. -/
  granted : Nat
  /-- The callers who left. -/
  departed : List Nat
  /-- What callers got to know and when, the latest first. -/
  events : List (Nat × Event)
  /-- Chains, metrics and record. -/
  outside : Surroundings σ

namespace State

variable {σ : Type}

/-- A queue nobody used yet, whose worker was not started. -/
def fresh (outside : Surroundings σ) : State σ :=
  { now := 0, asked := 0, lifecycle := .running, shutdown := false, held := true
    stage := .unstarted, buffer := [], waiters := [], granted := 0, departed := [], events := []
    outside := outside }

/-- How many places are taken, by an entry or by a caller about to store
    one. -/
def depth (s : State σ) : Nat :=
  s.buffer.length + s.granted

/-- Tells callers something. -/
def tell (e : Event) (s : State σ) : State σ :=
  { s with events := (s.now, e) :: s.events }

/-- Records in the metrics. -/
def measure (record : Metrics → Metrics) (s : State σ) : State σ :=
  { s with outside := s.outside.measure record }

/-- Turns a caller away. -/
def reject (ticket : Nat) (s : State σ) : State σ :=
  (s.tell (.rejected ticket)).measure Metrics.recordRejected

/-- Answers a submission. A caller who left does not hear it. -/
def answer (ticket : Nat) (r : Response) (s : State σ) : State σ :=
  s.tell (if s.departed.contains ticket then .unheard ticket r else .answered ticket r)

/-- Answers several submissions alike, in order. -/
def answerAll (r : Response) (tickets : List Nat) (s : State σ) : State σ :=
  tickets.foldl (fun t n => t.answer n r) s

/-- Turns several callers away, in order. -/
def rejectAll (tickets : List Nat) (s : State σ) : State σ :=
  tickets.foldl (fun t n => t.reject n) s

/-- Stores an entry. -/
def store (e : Entry) (s : State σ) : State σ :=
  let t := { s with buffer := s.buffer ++ [e] }.tell (.accepted e.ticket)
  t.measure fun m => m.recordEnqueued.setQueueDepth t.depth

/-- Callers who were handed a place store their entries, in line. -/
def storeFrom (entries : List Entry) (s : State σ) : State σ :=
  entries.foldl
    (fun t e => store e { t with waiters := t.waiters.drop 1, granted := t.granted - 1 }) s

/-- All callers who were handed a place store their entries. -/
def storeGranted (s : State σ) : State σ :=
  { s.storeFrom (s.waiters.take s.granted) with granted := 0 }

/-- Turns away everybody who waits for a place. -/
def releaseWaiters (s : State σ) : State σ :=
  { s with waiters := [], granted := 0 }.rejectAll (s.waiters.map Entry.ticket)

/-- A caller asks for its submission to be taken. Its ticket is the number of
    callers who asked before. -/
def enqueue (places : Nat) (send : Send) (s : State σ) : State σ :=
  let t := { s with asked := s.asked + 1 }
  -- A queue without a worker would never answer.
  if s.shutdown || s.stage.ending?.isSome then t.reject s.asked
  else if s.depth < places then t.store ⟨s.asked, send⟩
  else { t with waiters := s.waiters ++ [⟨s.asked, send⟩] }

/-- A caller leaves. If it waited for a place, it leaves the line, and a place
    it was handed goes to the next in line; its submission, if it was
    accepted, stays. -/
def withdraw (ticket : Nat) (s : State σ) : State σ :=
  if s.waiters.any fun e => e.ticket == ticket then
    let waiters := s.waiters.filter fun e => e.ticket != ticket
    -- Places are handed out in line, so those behind move up into them.
    { s with waiters := waiters, granted := min s.granted waiters.length }
  else { s with departed := ticket :: s.departed }

/-- Asks for a shutdown. Only the first who asks while the queue runs brings
    it about, and is told so. -/
def stop (s : State σ) : Bool × State σ :=
  if s.lifecycle = .running then
    (true, { s with lifecycle := .stopping, shutdown := true }.releaseWaiters)
  else (false, s)

/-- Gives up the handle of the queue. Callers who wait for a place keep
    theirs. -/
def dropHandle (s : State σ) : State σ :=
  { s with held := false }

/-- The worker goes away. Whatever it leaves unanswered is missing, and
    whoever waits for a place is turned away. -/
def leave (how : Ending) (s : State σ) : State σ :=
  -- What is in flight was accepted before what is stored.
  let t := s.answerAll (.failed .missingResult)
    (s.stage.ticket?.toList ++ s.buffer.map Entry.ticket)
  let t := { t with lifecycle := .stopped, stage := .ended how, buffer := [] }
  t.releaseWaiters.measure fun m => m.setQueueDepth 0

/-- Answering touches nothing but what callers know. -/
theorem answerAll_eq (r : Response) (tickets : List Nat) (s : State σ) :
    s.answerAll r tickets = { s with events := (s.answerAll r tickets).events } := by
  induction tickets generalizing s with
  | nil => rfl
  | cons n rest ih => exact ih (s.answer n r)

/-- Turning callers away touches nothing but what they know and the metrics. -/
theorem rejectAll_eq (tickets : List Nat) (s : State σ) :
    s.rejectAll tickets =
      { s with
        events := (s.rejectAll tickets).events
        outside := (s.rejectAll tickets).outside } := by
  induction tickets generalizing s with
  | nil => rfl
  | cons n rest ih => exact ih (s.reject n)

/-- Storing entries moves them from the line to the buffer. -/
theorem storeFrom_eq (entries : List Entry) (s : State σ) :
    s.storeFrom entries =
      { s with
        buffer := s.buffer ++ entries
        waiters := s.waiters.drop entries.length
        granted := s.granted - entries.length
        events := (s.storeFrom entries).events
        outside := (s.storeFrom entries).outside } := by
  induction entries generalizing s with
  | nil => simp only [storeFrom, List.foldl_nil, List.append_nil, List.length_nil, List.drop_zero,
      Nat.sub_zero]
  | cons e rest ih =>
    have h := ih (store e { s with waiters := s.waiters.drop 1, granted := s.granted - 1 })
    simp only [store, tell, measure, List.append_assoc, List.cons_append, List.nil_append,
      List.drop_drop, Nat.sub_sub] at h
    simp only [List.length_cons, Nat.add_comm rest.length 1]
    exact h

end State

end Queue

end TxRelay
