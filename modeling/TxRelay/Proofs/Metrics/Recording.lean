import TxRelay.Proofs.Metrics.Buckets
import TxRelay.Proofs.Queue.Readings

/-!
# Runs of Recordings

What can be recorded, one call at a time, and what the metrics hold after any run of
calls. Labels stay in order throughout.

All that is recorded about a chain stands under its label. What stands there is a
function of the calls about that chain alone, in their order: other calls pass by. In
particular a chain has a histogram and a number of confirmations exactly if one of its
transactions was recorded as confirmed, and both count the same calls.

## Main definitions

* `Recording`: A call that records something.
* `Recording.latency?`: The latency of a confirmation on a chain.
* `Metrics.after`: The metrics after a run of calls.
* `Metrics.Ordered`: All labels are in order.
* `Metrics.view`: What stands under a label of the families by chain.

## Theorems

* `Metrics.ordered_after`: A run of calls keeps the labels in order.
* `Recording.view_record`: What a call does to what stands under the label of a chain.
* `Metrics.view_after_filter`: Only the calls about a chain matter to its label.
* `Metrics.confirmations_after`: What the confirmations on a chain leave.
-/

namespace TxRelay

/-- A call that records something. -/
inductive Recording where
  /-- A nonce was handed out. -/
  | allocated (origin : String)
  /-- A query for a nonce failed. -/
  | queryFailure
  /-- So many submissions wait. -/
  | queueDepth (depth : Nat)
  /-- A submission was accepted. -/
  | enqueued
  /-- A submission was turned away. -/
  | rejected
  /-- So many submissions were answered when the queue closed. -/
  | drained (n : Nat)
  /-- A send operation failed. -/
  | sendFailure
  /-- A transaction was confirmed after so many seconds. -/
  | confirmed (chain : ChainId) (latency : Binary64)
  /-- A transaction was not confirmed in time. -/
  | unconfirmed (chain : ChainId)
  /-- A lookup failed. -/
  | pollError (chain : ChainId)
  /-- A chain answered its health check or did not. -/
  | chainHealth (chain : ChainId) (healthy : Bool)
  /-- The health check ran. -/
  | healthCheck

namespace Recording

/-- What a call does to the metrics. -/
def record : Recording → Metrics → Metrics
  | allocated origin => Metrics.recordAllocated origin
  | queryFailure => Metrics.recordQueryFailure
  | queueDepth depth => Metrics.setQueueDepth depth
  | enqueued => Metrics.recordEnqueued
  | rejected => Metrics.recordRejected
  | drained n => Metrics.recordDrained n
  | sendFailure => Metrics.recordSendFailure
  | confirmed chain latency => Metrics.recordConfirmed chain latency
  | unconfirmed chain => Metrics.recordUnconfirmed chain
  | pollError chain => Metrics.recordPollError chain
  | chainHealth chain healthy => Metrics.recordChainHealth chain healthy
  | healthCheck => Metrics.recordHealthCheck

/-- The chain that a call is about. -/
def chain? : Recording → Option ChainId
  | confirmed chain _ | unconfirmed chain | pollError chain | chainHealth chain _ => some chain
  | _ => none

/-- The latency, if a call records a confirmation on a chain. -/
def latency? (chain : ChainId) : Recording → Option Binary64
  | confirmed c latency => if c = chain then some latency else none
  | _ => none

end Recording

namespace Metrics

/-- The metrics after a run of calls. -/
def after (calls : List Recording) : Metrics :=
  calls.foldl (fun m call => call.record m) .zero

/-- All labels are in order. -/
structure Ordered (m : Metrics) : Prop where
  /-- The origins of nonces. -/
  allocated : m.allocated.Sorted
  /-- The events of queues. -/
  queueEvents : m.queueEvents.Sorted
  /-- The chains in each family by chain. -/
  confirmed : m.confirmed.Sorted
  unconfirmed : m.unconfirmed.Sorted
  pollErrors : m.pollErrors.Sorted
  latency : m.latency.Sorted
  connected : m.connected.Sorted

/-- What stands under a label in the families by chain. -/
structure View where
  /-- Confirmed transactions. -/
  confirmed : Option Nat
  /-- Unconfirmed transactions. -/
  unconfirmed : Option Nat
  /-- Failed lookups. -/
  pollErrors : Option Nat
  /-- Latencies of confirmations. -/
  latency : Option Histogram
  /-- The last health check. -/
  connected : Option Nat

/-- What stands under a label in the families by chain. -/
def view (label : String) (m : Metrics) : View where
  confirmed := m.confirmed.get? label
  unconfirmed := m.unconfirmed.get? label
  pollErrors := m.pollErrors.get? label
  latency := m.latency.get? label
  connected := m.connected.get? label

end Metrics

namespace Recording

open Labelled

variable {m : Metrics}

-- The gauge has no labels.
theorem ordered_depth (depth : Int) (ordered : m.Ordered) :
    Metrics.Ordered { m with queueDepth := depth } :=
  { ordered with }

theorem view_depth (depth : Int) (label : String) :
    Metrics.view label { m with queueDepth := depth } = m.view label :=
  rfl

/-- A call keeps the labels in order. -/
theorem ordered_record (call : Recording) (ordered : m.Ordered) : (call.record m).Ordered := by
  cases call with
  | allocated origin => exact { ordered with allocated := sorted_adjust ordered.allocated }
  | enqueued | rejected | drained =>
    exact { ordered with queueEvents := sorted_adjust ordered.queueEvents }
  | confirmed chain latency =>
    exact { ordered with
      confirmed := sorted_adjust ordered.confirmed
      latency := sorted_adjust ordered.latency }
  | unconfirmed chain => exact { ordered with unconfirmed := sorted_adjust ordered.unconfirmed }
  | pollError chain => exact { ordered with pollErrors := sorted_adjust ordered.pollErrors }
  | chainHealth chain healthy =>
    exact { ordered with connected := sorted_adjust ordered.connected }
  | queryFailure => exact { ordered with }
  | queueDepth depth => exact ordered_depth _ ordered
  | sendFailure => exact { ordered with }
  | healthCheck => exact { ordered with }

/-- What a call does to what stands under the label of the chain it is about. -/
def change : Recording → Metrics.View → Metrics.View
  | confirmed _ latency, v =>
    { v with
      confirmed := some (Counter.add (v.confirmed.getD 0) 1)
      latency := some ((v.latency.getD .empty).observe latency) }
  | unconfirmed _, v => { v with unconfirmed := some (Counter.add (v.unconfirmed.getD 0) 1) }
  | pollError _, v => { v with pollErrors := some (Counter.add (v.pollErrors.getD 0) 1) }
  | chainHealth _ healthy, v => { v with connected := some (if healthy then 1 else 0) }
  | _, v => v

-- A change under the label of one chain, seen from another.
theorem get?_adjust_chain {α : Type} (about chain : ChainId) (fresh : α) (change : α → α)
    {values : Labelled α} (sorted : values.Sorted) :
    get? (toString chain) (values.adjust (toString about) fresh change) =
      if about = chain then some (change ((get? (toString chain) values).getD fresh))
      else get? (toString chain) values := by
  by_cases same : about = chain
  · rw [if_pos same, same]
    exact get?_adjust_self _ fresh change sorted
  · rw [if_neg same]
    exact get?_adjust_other fresh change values fun label => same (ChainId.toString_inj label).symm

/-- What a call does to what stands under the label of a chain. -/
theorem view_record (call : Recording) (chain : ChainId) (ordered : m.Ordered) :
    (call.record m).view (toString chain) =
      if call.chain? = some chain then call.change (m.view (toString chain))
      else m.view (toString chain) := by
  cases call with
  | confirmed about latency =>
    have number := get?_adjust_chain about chain 0 (Counter.add · 1) ordered.confirmed
    have latencies := get?_adjust_chain about chain .empty (.observe latency) ordered.latency
    simp only [record, Metrics.recordConfirmed, Metrics.view, count, number, latencies, chain?,
      Option.some.injEq, change]
    split <;> rfl
  | unconfirmed about =>
    have number := get?_adjust_chain about chain 0 (Counter.add · 1) ordered.unconfirmed
    simp only [record, Metrics.recordUnconfirmed, Metrics.view, count, number, chain?,
      Option.some.injEq, change]
    split <;> rfl
  | pollError about =>
    have number := get?_adjust_chain about chain 0 (Counter.add · 1) ordered.pollErrors
    simp only [record, Metrics.recordPollError, Metrics.view, count, number, chain?,
      Option.some.injEq, change]
    split <;> rfl
  | chainHealth about healthy =>
    have shown := get?_adjust_chain about chain 0 (fun _ => if healthy then 1 else 0)
      ordered.connected
    simp only [record, Metrics.recordChainHealth, Metrics.view, shown, chain?, Option.some.injEq,
      change]
    split <;> rfl
  | queueDepth depth => exact (view_depth _ _).trans (if_neg (Option.some_ne_none chain).symm).symm
  | allocated | queryFailure | enqueued | rejected | drained | sendFailure | healthCheck =>
    exact (if_neg (Option.some_ne_none chain).symm).symm

-- A call about another chain records no confirmation on this one.
theorem latency?_eq_none {call : Recording} {chain : ChainId} (other : call.chain? ≠ some chain) :
    call.latency? chain = none := by
  cases call with
  | confirmed about latency => exact if_neg fun same => other (congrArg some same)
  | _ => rfl

end Recording

namespace Metrics

open Labelled

theorem after_concat (calls : List Recording) (call : Recording) :
    after (calls ++ [call]) = call.record (after calls) := by
  rw [after, List.foldl_append]
  rfl

/-- A run of calls keeps the labels in order. -/
theorem ordered_after (calls : List Recording) : (after calls).Ordered := by
  induction calls using List.reverseRecOn with
  | nil => exact ⟨.nil, .nil, .nil, .nil, .nil, .nil, .nil⟩
  | append_singleton calls call ih => exact after_concat calls call ▸ call.ordered_record ih

-- What a run of calls leaves under the label of a chain, call by call.
theorem view_after_concat (calls : List Recording) (call : Recording) (chain : ChainId) :
    (after (calls ++ [call])).view (toString chain) =
      if call.chain? = some chain then call.change ((after calls).view (toString chain))
      else (after calls).view (toString chain) := by
  rw [after_concat]
  exact call.view_record chain (ordered_after calls)

/-- Only the calls about a chain matter to its label. -/
theorem view_after_filter (calls : List Recording) (chain : ChainId) :
    (after (calls.filter (·.chain? == some chain))).view (toString chain) =
      (after calls).view (toString chain) := by
  induction calls using List.reverseRecOn with
  | nil => rfl
  | append_singleton calls call ih =>
    rw [List.filter_append, view_after_concat, List.filter_cons, List.filter_nil]
    by_cases about : call.chain? = some chain
    · rw [if_pos (beq_iff_eq.mpr about), view_after_concat, ih]
    · rw [if_neg (mt beq_iff_eq.mp about), List.append_nil, ih, if_neg about]

/-- The latencies of the confirmations on a chain. -/
def latencies (chain : ChainId) (calls : List Recording) : List Binary64 :=
  calls.filterMap (·.latency? chain)

-- A chain that was not there starts from nothing.
theorem getD_recorded {α : Type} (f : List Binary64 → α) (recorded : List Binary64) :
    (if recorded = [] then none else some (f recorded)).getD (f []) = f recorded := by
  split
  · rename_i empty
    rw [empty]
    rfl
  · rfl

/-- Number and histogram of the confirmations on a chain count the same calls. -/
theorem confirmations_after (calls : List Recording) (chain : ChainId) :
    ((after calls).view (toString chain)).confirmed =
        (if latencies chain calls = [] then none
          else some (Counter.shown (latencies chain calls).length)) ∧
      ((after calls).view (toString chain)).latency =
        (if latencies chain calls = [] then none
          else some (.ofLatencies (latencies chain calls))) := by
  induction calls using List.reverseRecOn with
  | nil => exact ⟨rfl, rfl⟩
  | append_singleton calls call ih =>
    rw [view_after_concat, latencies, List.filterMap_append, ← latencies]
    by_cases about : call.chain? = some chain
    · rw [if_pos about]
      cases call with
      | confirmed same latency =>
        cases about
        have one : [Recording.confirmed chain latency].filterMap (·.latency? chain) =
            [latency] := by
          rw [List.filterMap_cons, Recording.latency?, if_pos rfl]
          rfl
        have some : latencies chain calls ++ [latency] ≠ [] :=
          List.append_ne_nil_of_right_ne_nil _ (List.cons_ne_nil latency [])
        have number : ((after calls).view (toString chain)).confirmed.getD 0 =
            Counter.shown (latencies chain calls).length :=
          ih.1 ▸ getD_recorded (Counter.shown ·.length) (latencies chain calls)
        have sorted : ((after calls).view (toString chain)).latency.getD .empty =
            .ofLatencies (latencies chain calls) :=
          ih.2 ▸ getD_recorded Histogram.ofLatencies (latencies chain calls)
        rw [one, if_neg some, if_neg some, List.length_append, Histogram.ofLatencies_concat,
          Recording.change, number, sorted, Counter.add_shown]
        exact ⟨rfl, rfl⟩
      | _ => exact (List.append_nil _).symm ▸ ih
    · have none : [call].filterMap (·.latency? chain) = [] := by
        rw [List.filterMap_cons, Recording.latency?_eq_none about]
        rfl
      rw [if_neg about, none, List.append_nil]
      exact ih

end Metrics

end TxRelay
