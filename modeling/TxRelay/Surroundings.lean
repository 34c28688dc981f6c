import TxRelay.Clock
import TxRelay.Metrics.Registry

/-!
# Surroundings

What a machine of this library touches besides its own state: the chains,
which answer its calls and may change with each of them; the metrics; and the
record of what was done, with the time of each act.

The chains are a state of any type and a function per operation. A function
says what the next call will do and how the chains look afterwards, so every
behaviour of the chains — scripted answers, endpoints that come and go, one
chain shared by many callers — is an instance.

Calls carry tickets: the number of calls made before them.

## Main definitions

* `NonceSource`, `Lookup`, `Broadcaster`: The operations on chains.
* `Act`: Something that was done.
* `Surroundings`: Chains, metrics and record.
-/

namespace TxRelay

/-- Asks a chain for the nonce that the next transaction of an account has to
    carry. -/
abbrev NonceSource (σ : Type) := Address → σ → Reply UInt64 × σ

/-- Asks a chain whether a transaction is still pending. -/
abbrev Lookup (σ : Type) := ChainId → Hash → σ → Reply Bool × σ

/-- Hands a signed transaction to a chain, which answers with its hash. -/
abbrev Broadcaster (σ : Type) := ChainId → Bytes → σ → Reply Hash × σ

/-- Something that was done on behalf of a caller. -/
inductive Act where
  /-- The chain was asked for an account's nonce. -/
  | query (account : Address)
  /-- The chain was asked for a transaction. -/
  | lookup (chain : ChainId) (hash : Hash)
  /-- The transaction was handed to the chain. -/
  | attempt (chain : ChainId) (raw : Bytes)
  /-- The send operation of a submission began. -/
  | send (ticket : Nat)
  deriving DecidableEq

/-- Chains, metrics and record. -/
structure Surroundings (σ : Type) where
  /-- The chains. -/
  world : σ
  /-- The metrics. -/
  metrics : Metrics
  /-- What was done and when, the latest first. -/
  acts : List (Nat × Act)

namespace Surroundings

variable {σ : Type}

/-- Chains of which nothing was asked yet. -/
def fresh (world : σ) : Surroundings σ :=
  ⟨world, .zero, []⟩

/-- Notes an act. -/
def note (now : Nat) (act : Act) (s : Surroundings σ) : Surroundings σ :=
  { s with acts := (now, act) :: s.acts }

/-- Records in the metrics. -/
def measure (record : Metrics → Metrics) (s : Surroundings σ) : Surroundings σ :=
  { s with metrics := record s.metrics }

/-- Calls an operation of the chains and notes that it was called. -/
def call {α : Type} (now : Nat) (act : Act) (operation : σ → Reply α × σ)
    (s : Surroundings σ) : Answer α × Surroundings σ :=
  let r := operation s.world
  (r.1.calledAt now, { s with world := r.2, acts := (now, act) :: s.acts })

end Surroundings

end TxRelay
