import TxRelay.Metrics.Registry
import TxRelay.Decimal.Shortest

/-!
# The Exposition Text

The metrics as the text that a monitoring server collects: for each family a
line with its help, one with its type, and its samples. Families stand in the
order of their names, the samples of one in the order of their label. A family
with labels but no sample is left out. Every value is written as a double.

## Main definitions

* `Sample`, `Family`: What the text consists of.
* `Metrics.families`: The families of the metrics that have samples.
* `Metrics.exposition`: The text.
-/

namespace TxRelay

/-- A line with a value. -/
structure Sample where
  /-- What is written behind the family's name. -/
  suffix : String
  /-- The labels with their values. -/
  labels : List (String × String)
  /-- The text of the value. -/
  value : String

/-- A family of samples. -/
structure Family where
  /-- The family's name. -/
  name : String
  /-- What it says. -/
  help : String
  /-- The kind of metric. -/
  kind : String
  /-- Its samples. -/
  samples : List Sample

namespace Exposition

/-- A natural number as a double. -/
def natText (n : Nat) : String :=
  (Binary64.ofNat n).render

/-- An integer as a double. -/
def intText (n : Int) : String :=
  if n < 0 then "-" ++ natText n.natAbs else natText n.natAbs

/-- A character of a label's value. -/
def escapeChar (c : Char) : List Char :=
  if c = '\\' then ['\\', '\\']
  else if c = '\n' then ['\\', 'n']
  else if c = '"' then ['\\', '"']
  else [c]

/-- The value of a label, with the characters escaped that would end it. -/
def escape (s : String) : String :=
  String.ofList (s.toList.flatMap escapeChar)

/-- The labels in braces, or nothing if there are none. -/
def labelText (labels : List (String × String)) : String :=
  match labels with
  | [] => ""
  | _ =>
    "\x7b" ++ String.intercalate "," (labels.map fun l => l.1 ++ "=\"" ++ escape l.2 ++ "\"") ++ "\x7d"

/-- The lines of a family. -/
def lines (f : Family) : List String :=
  [ "# HELP " ++ f.name ++ " " ++ f.help, "# TYPE " ++ f.name ++ " " ++ f.kind ] ++
    f.samples.map fun s => f.name ++ s.suffix ++ labelText s.labels ++ " " ++ s.value

/-- A family with one value and no label. -/
def plain (name help kind value : String) : Family :=
  ⟨name, help, kind, [⟨"", [], value⟩]⟩

/-- A family with one value per label. -/
def perLabel (name help kind label : String) (values : Labelled Nat) : Family :=
  ⟨name, help, kind, values.map fun v => ⟨"", [(label, v.1)], natText v.2⟩⟩

/-- The samples of a histogram: the running totals per bound, the total, the
    sum and the number. -/
def histogramSamples (label value : String) (h : Histogram) : List Sample :=
  (Histogram.bounds.zip h.cumulative).map
      (fun b => ⟨"_bucket", [(label, value), ("le", b.1.2)], natText b.2⟩) ++
    [ ⟨"_bucket", [(label, value), ("le", "+Inf")], natText h.count⟩,
      ⟨"_sum", [(label, value)], h.sum.render⟩,
      ⟨"_count", [(label, value)], natText h.count⟩ ]

end Exposition

namespace Metrics

open Exposition

/-- All families in the order of their names, also those without samples. -/
def allFamilies (m : Metrics) : List Family :=
  [ perLabel "tx_submitter_chain_connected"
      "Chain connection status (1=connected, 0=disconnected)" "gauge" "chain_id" m.connected,
    ⟨"tx_submitter_confirmation_latency_seconds",
      "Time from broadcast to leaving the pending pool", "histogram",
      m.latency.flatMap fun v => histogramSamples "chain_id" v.1 v.2⟩,
    perLabel "tx_submitter_confirmation_poll_errors_total"
      "Failed transaction lookups while polling" "counter" "chain_id" m.pollErrors,
    plain "tx_submitter_health_checks_total" "Periodic health check runs" "counter"
      (natText m.healthChecks),
    plain "tx_submitter_nonce_query_failures_total" "Failed pending-nonce queries" "counter"
      (natText m.queryFailures),
    perLabel "tx_submitter_nonces_allocated_total"
      "Nonces handed out, by whether the chain was queried" "counter" "source" m.allocated,
    plain "tx_submitter_queue_depth" "Submissions waiting behind the one in flight" "gauge"
      (intText m.queueDepth),
    perLabel "tx_submitter_queue_events_total" "Queue admissions and closures" "counter" "event"
      m.queueEvents,
    plain "tx_submitter_send_failures_total" "Send operations that returned an error" "counter"
      (natText m.sendFailures),
    perLabel "tx_submitter_transactions_confirmed_total"
      "Transactions observed leaving the pending pool" "counter" "chain_id" m.confirmed,
    perLabel "tx_submitter_transactions_unconfirmed_total"
      "Transactions still pending when the confirmation timeout elapsed" "counter" "chain_id"
      m.unconfirmed ]

/-- The families that have samples. -/
def families (m : Metrics) : List Family :=
  m.allFamilies.filter fun f => !f.samples.isEmpty

/-- The lines of the text. -/
def expositionLines (m : Metrics) : List String :=
  m.families.flatMap lines

/-- The text, with a line feed behind each line. -/
def exposition (m : Metrics) : String :=
  String.join (m.expositionLines.map (· ++ "\n"))

/-- The lines with values, without those that explain them. -/
def sampleLines (m : Metrics) : List String :=
  m.families.flatMap fun f => (lines f).drop 2

end Metrics

end TxRelay
