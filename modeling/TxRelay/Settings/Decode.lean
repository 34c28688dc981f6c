import TxRelay.Settings.Basic
import TxRelay.Settings.Placeholder
import TxRelay.Toml.Document

/-!
# Reading Settings

Settings are read from a text in TOML. What is not set takes its default, what
is not known is ignored, and a value of the wrong kind or out of its range
makes the whole text unreadable. A section may also be written as a list, with
its fields in order; and a date in the place of a section that has defaults
for everything sets nothing.

## Main definitions

* `Settings.decode`: Settings from a value.
* `Settings.parse`: Settings from a text as it stands.
* `Settings.ofText`: Settings from a text with placeholders, validated.
-/

namespace TxRelay

namespace Settings

open Toml

/-- The fields of a section: by name, or by position. -/
inductive Fields where
  /-- A table. -/
  | named (entries : List (String × Value))
  /-- A list. -/
  | listed (items : List Value)

namespace Fields

/-- The fields of a value that stands for a section. -/
def ofValue : Value → Option Fields
  | .table entries => some (.named entries)
  | .array items => some (.listed items)
  | .date => some (.named [])
  | _ => none

/-- A field, with its name and its position. -/
def get? (name : String) (position : Nat) : Fields → Option Value
  | .named entries => (Value.table entries).lookup? name
  | .listed items => items[position]?

/-- A field that has a default. -/
def getD {α : Type} (name : String) (position : Nat) (read : Value → Option α) (default : α)
    (f : Fields) : Option α :=
  match f.get? name position with
  | some v => read v
  | none => some default

/-- A field that must be there. -/
def require {α : Type} (name : String) (position : Nat) (read : Value → Option α) (f : Fields) :
    Option α :=
  (f.get? name position).bind read

end Fields

/-- A natural number below a bound. -/
def natBelow (bound : Nat) : Value → Option Nat
  | .int n => if 0 ≤ n && n < bound then some n.toNat else none
  | _ => none

/-- A number of 64 bits. -/
def nat64 : Value → Option Nat := natBelow UInt64.size

/-- A port. -/
def port : Value → Option Nat := natBelow UInt16.size

/-- A truth value. -/
def bool : Value → Option Bool
  | .bool b => some b
  | _ => none

/-- A text. -/
def text : Value → Option String
  | .str s => some s
  | _ => none

/-- A list of texts. -/
def texts : Value → Option (List String)
  | .array items => items.mapM text
  | _ => none

/-- The section of the queue. -/
def queueSection (v : Value) : Option QueueSettings := do
  let f ← Fields.ofValue v
  pure
    { capacity := ← f.getD "capacity" 0 nat64 QueueSettings.default.capacity
      confirmationSeconds :=
        ← f.getD "confirmation_timeout_secs" 1 nat64 QueueSettings.default.confirmationSeconds
      pollMillis := ← f.getD "poll_interval_ms" 2 nat64 QueueSettings.default.pollMillis }

/-- The section of the sender. -/
def senderSection (v : Value) : Option SenderSettings := do
  let f ← Fields.ofValue v
  pure
    { attempts := ← f.getD "max_retries" 0 (natBelow UInt32.size) SenderSettings.default.attempts
      pauseMillis := ← f.getD "retry_delay_ms" 1 nat64 SenderSettings.default.pauseMillis
      patienceSeconds := ← f.getD "send_timeout_secs" 2 nat64 SenderSettings.default.patienceSeconds }

/-- The section of the interface. -/
def apiSection (v : Value) : Option ApiSettings := do
  let f ← Fields.ofValue v
  pure
    { host := ← f.getD "host" 0 text ApiSettings.default.host
      port := ← f.getD "port" 1 port ApiSettings.default.port }

/-- The section of the metrics page. -/
def metricsSection (v : Value) : Option MetricsSettings := do
  let f ← Fields.ofValue v
  pure
    { enabled := ← f.getD "enabled" 0 bool MetricsSettings.default.enabled
      port := ← f.getD "port" 1 port MetricsSettings.default.port }

/-- The section of the log. -/
def logSection (v : Value) : Option Bool := do
  let f ← Fields.ofValue v
  f.getD "json" 0 bool false

/-- A chain. -/
def chainSection (v : Value) : Option ChainSettings := do
  let f ← Fields.ofValue v
  let chain ← f.require "chain_id" 0 nat64
  pure
    { chain := chain.toUInt64
      name := ← f.require "name" 1 text
      urls := ← f.require "rpc_urls" 2 texts
      enabled := ← f.getD "enabled" 3 bool true }

/-- The table of chains. -/
def chainTable : Value → Option (List (String × ChainSettings))
  | .table entries => entries.mapM fun e => (chainSection e.2).map fun c => (e.1, c)
  | _ => none

/-- Settings from a value. -/
def decode : Value → Option Settings
  | .table entries => do
    let f := Fields.named entries
    pure
      { queue := ← f.getD "queue" 0 queueSection .default
        sender := ← f.getD "sender" 1 senderSection .default
        api := ← f.getD "api" 2 apiSection .default
        metrics := ← f.getD "metrics" 3 metricsSection .default
        jsonLog := ← f.getD "logging" 4 logSection false
        chains := ← f.require "chains" 5 chainTable }
  | _ => none

/-- Settings from a text as it stands. -/
def parse (source : String) : Option Settings :=
  (Toml.parse? source).bind decode

/-- Settings from a text with placeholders, validated. -/
def ofText (environment : String → Option String) (source : String) :
    Except SettingsFault Settings :=
  match parse (substitute environment source) with
  | none => .error .unreadable
  | some s =>
    match s.validate with
    | .ok () => .ok s
    | .error e => .error e

end Settings

end TxRelay
