import TxRelay.Decimal.Binary64
import TxRelay.Bytes

/-!
# Metrics

What the program counts about itself. Families with labels hold one value per
label, ordered by the label as text, and no value for a label that was never
recorded; plain counters and gauges always hold a value.

Counters are kept in double precision, so an increment is a sum rounded to a
double. They only ever hold whole numbers, so a natural number stands for the
double, and below `2 ^ 53` the rounding does nothing.

## Main definitions

* `Labelled`: One value per label, ordered by label.
* `Histogram`: Latencies, sorted into buckets, with their sum and number.
* `Metrics`: All families.
* `Metrics.recordConfirmed` and its neighbours: What can be recorded.

## Theorems

* `Counter.add_eq_of_lt`: Small counters count exactly.
-/

namespace TxRelay

namespace Counter

/-- The sum of two counters, as a double. -/
def add (a b : Nat) : Nat :=
  roundFraction (a + b) 1

/-- A whole number as a double. -/
def ofNat (n : Nat) : Nat :=
  roundFraction n 1

/-- Counters below `2 ^ 53` count exactly. -/
theorem add_eq_of_lt {a b : Nat} (h : a + b < Nat.pow 2 53) : add a b = a + b :=
  roundFraction_one_of_lt h

end Counter

/-- One value per label, ordered by label. -/
abbrev Labelled (α : Type) := List (String × α)

namespace Labelled

/-- Changes the value at a label, starting from `fresh` if there is none. -/
def adjust {α : Type} (label : String) (fresh : α) (change : α → α) : Labelled α → Labelled α
  | [] => [(label, change fresh)]
  | (l, a) :: rest =>
    if label = l then (l, change a) :: rest
    else if label < l then (label, change fresh) :: (l, a) :: rest
    else (l, a) :: adjust label fresh change rest

/-- The value at a label. -/
def get? {α : Type} (label : String) (values : Labelled α) : Option α :=
  List.lookup label values

/-- Counts something under a label. -/
def count (label : String) (n : Nat) (values : Labelled Nat) : Labelled Nat :=
  adjust label 0 (Counter.add · n) values

end Labelled

/-- Latencies, sorted into buckets. -/
structure Histogram where
  /-- How many latencies fell into each bucket: above the bound before it and
      not above its own. -/
  buckets : List Nat
  /-- The sum of all latencies. -/
  sum : Binary64
  /-- Their number. -/
  count : Nat
  deriving DecidableEq

namespace Histogram

/-- The upper bounds of the buckets in seconds, with their texts. -/
def bounds : List (Binary64 × String) :=
  [(.ofFraction 1 2, "0.5"), (.ofNat 1, "1"), (.ofFraction 5 2, "2.5"), (.ofNat 5, "5"),
   (.ofNat 10, "10"), (.ofNat 30, "30"), (.ofNat 60, "60"), (.ofNat 120, "120"),
   (.ofNat 300, "300")]

/-- No latencies. -/
def empty : Histogram :=
  ⟨bounds.map fun _ => 0, .zero, 0⟩

/-- Counts a latency in the first bucket whose bound it does not exceed. -/
def place (latency : Binary64) : List (Binary64 × String) → List Nat → List Nat
  | (bound, _) :: bounds, n :: rest =>
    if latency ≤ bound then (n + 1) :: rest else n :: place latency bounds rest
  | _, counts => counts

/-- Records a latency. -/
def observe (latency : Binary64) (h : Histogram) : Histogram :=
  { buckets := place latency bounds h.buckets
    sum := h.sum.add latency
    count := h.count + 1 }

/-- The running totals of some counts. -/
def running (total : Nat) : List Nat → List Nat
  | [] => []
  | n :: rest => (total + n) :: running (total + n) rest

/-- How many latencies do not exceed each bound. -/
def cumulative (h : Histogram) : List Nat :=
  running 0 h.buckets

end Histogram

/-- Where an allocated nonce came from. -/
inductive NonceOrigin where
  /-- One more than the last one. -/
  | cache
  /-- The chain was asked. -/
  | chain
  deriving DecidableEq

namespace NonceOrigin

/-- The label under which the origin is counted. -/
def label : NonceOrigin → String
  | .cache => "cache"
  | .chain => "chain"

end NonceOrigin

/-- Everything that is counted. -/
structure Metrics where
  /-- Nonces handed out, by origin. -/
  allocated : Labelled Nat
  /-- Failed queries for a nonce. -/
  queryFailures : Nat
  /-- Submissions that wait behind the one in flight. -/
  queueDepth : Int
  /-- Admissions and closures of the queue, by kind. -/
  queueEvents : Labelled Nat
  /-- Confirmed transactions, by chain. -/
  confirmed : Labelled Nat
  /-- Unconfirmed transactions, by chain. -/
  unconfirmed : Labelled Nat
  /-- Send operations that failed. -/
  sendFailures : Nat
  /-- Failed lookups while waiting for confirmation, by chain. -/
  pollErrors : Labelled Nat
  /-- Time from broadcast to confirmation, by chain. -/
  latency : Labelled Histogram
  /-- Whether each chain answered its last health check. -/
  connected : Labelled Nat
  /-- Runs of the periodic health check. -/
  healthChecks : Nat

namespace Metrics

/-- Nothing recorded yet. -/
def zero : Metrics :=
  { allocated := [], queryFailures := 0, queueDepth := 0, queueEvents := [], confirmed := []
    unconfirmed := [], sendFailures := 0, pollErrors := [], latency := [], connected := []
    healthChecks := 0 }

/-- Counts a nonce under the name of its origin. -/
def recordAllocated (origin : String) (m : Metrics) : Metrics :=
  { m with allocated := m.allocated.count origin 1 }

/-- Counts a failed query for a nonce. -/
def recordQueryFailure (m : Metrics) : Metrics :=
  { m with queryFailures := m.queryFailures + 1 }

/-- Shows a depth. The gauge holds 64 bits with a sign. -/
def setQueueDepth (depth : Nat) (m : Metrics) : Metrics :=
  { m with queueDepth := (depth : Int).bmod UInt64.size }

/-- Counts an accepted submission. -/
def recordEnqueued (m : Metrics) : Metrics :=
  { m with queueEvents := m.queueEvents.count "enqueued" 1 }

/-- Counts a submission that was not accepted. -/
def recordRejected (m : Metrics) : Metrics :=
  { m with queueEvents := m.queueEvents.count "rejected" 1 }

/-- Counts submissions that were answered when the queue closed. -/
def recordDrained (n : Nat) (m : Metrics) : Metrics :=
  { m with queueEvents := m.queueEvents.count "drained" (Counter.ofNat n) }

/-- Counts a failed send operation. -/
def recordSendFailure (m : Metrics) : Metrics :=
  { m with sendFailures := m.sendFailures + 1 }

/-- Counts a confirmed transaction and its latency. -/
def recordConfirmed (chain : ChainId) (latency : Binary64) (m : Metrics) : Metrics :=
  { m with
    confirmed := m.confirmed.count (toString chain) 1
    latency := m.latency.adjust (toString chain) .empty (.observe latency) }

/-- Counts a transaction that was never seen leaving the pending pool. -/
def recordUnconfirmed (chain : ChainId) (m : Metrics) : Metrics :=
  { m with unconfirmed := m.unconfirmed.count (toString chain) 1 }

/-- Counts a failed lookup. -/
def recordPollError (chain : ChainId) (m : Metrics) : Metrics :=
  { m with pollErrors := m.pollErrors.count (toString chain) 1 }

/-- Shows the health of a chain. -/
def recordChainHealth (chain : ChainId) (healthy : Bool) (m : Metrics) : Metrics :=
  { m with connected := m.connected.adjust (toString chain) 0 (fun _ => if healthy then 1 else 0) }

/-- Counts a run of the periodic health check. -/
def recordHealthCheck (m : Metrics) : Metrics :=
  { m with healthChecks := m.healthChecks + 1 }

end Metrics

end TxRelay
