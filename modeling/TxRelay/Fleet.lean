import TxRelay.Provider
import TxRelay.Surroundings

/-!
# The Fleet

All chains that are connected, each with its provider. The chains are those
the settings use; a chain none of whose endpoints has a URL makes the whole
fleet fail, and a fleet needs at least one chain. Everything that is asked of a
chain goes to its provider, and a chain that is not connected is not found.

## Main definitions

* `Fleet`: The providers, ordered by chain.
* `Fleet.ofSettings`: The providers that settings ask for.
* `Fleet.connected`, `Fleet.provider?`: The chains.
* `Network`: A fleet and the endpoints behind it.
* `Network.lookup`, `Network.broadcast`: What the queue needs of a network.
* `Network.probeAll`: Asks chains whether they can be reached.
* `Fleet.Order`: In which order all of them are asked.

## Theorems

* `Fleet.provider?_put_self`, `Fleet.provider?_put_other`: What a change of one
  provider leaves alone.
-/

namespace TxRelay

/-- The providers, ordered by chain. -/
structure Fleet where
  /-- The providers. -/
  providers : List Provider

namespace Fleet

/-- Puts a provider in its place, instead of one for the same chain. -/
def insert (p : Provider) : List Provider → List Provider
  | [] => [p]
  | q :: rest =>
    if p.chain = q.chain then p :: rest
    else if p.chain < q.chain then p :: q :: rest
    else q :: insert p rest

/-- A fleet with a provider in it. -/
def put (p : Provider) (f : Fleet) : Fleet :=
  ⟨insert p f.providers⟩

/-- The provider of a chain. -/
def provider? (chain : ChainId) (f : Fleet) : Option Provider :=
  f.providers.find? fun p => p.chain == chain

/-- The chains, in order. -/
def connected (f : Fleet) : List ChainId :=
  f.providers.map Provider.chain

/-- Connects chains, up to the first that cannot be. -/
def connect : List ChainSettings → Fleet → Except Failure Fleet
  | [], f => .ok f
  | c :: rest, f =>
    match Provider.ofSettings c with
    | .ok p => connect rest (f.put p)
    | .error e => .error e

/-- The providers that settings ask for. -/
def ofSettings (s : Settings) : Except Failure Fleet :=
  match connect (s.enabledChains.map (·.2)) ⟨[]⟩ with
  | .error e => .error e
  | .ok f =>
    if f.providers.isEmpty then .error (.config "No chains could be initialized") else .ok f

/-- An order in which all chains are gone through. -/
structure Order where
  /-- Puts chains in order. -/
  arrange : List ChainId → List ChainId
  /-- It leaves none out and repeats none. -/
  perm : ∀ chains, (arrange chains).Perm chains

/-- In the order of the chains. -/
def Order.rising : Order :=
  ⟨id, fun chains => .refl chains⟩

/-- The provider that was put in is found. -/
theorem provider?_put_self (p : Provider) (f : Fleet) :
    (f.put p).provider? p.chain = some p := by
  obtain ⟨providers⟩ := f
  simp only [put, provider?]
  induction providers with
  | nil => simp only [insert, List.find?_cons, beq_self_eq_true]
  | cons q rest ih =>
    simp only [insert]
    split
    · simp only [List.find?_cons, beq_self_eq_true]
    · rename_i hne
      split
      · simp only [List.find?_cons, beq_self_eq_true]
      · have hq : (q.chain == p.chain) = false := beq_false_of_ne fun h => hne h.symm
        simp only [List.find?_cons, hq]
        exact ih

/-- Other chains keep their providers. -/
theorem provider?_put_other {p : Provider} {chain : ChainId} (h : chain ≠ p.chain) (f : Fleet) :
    (f.put p).provider? chain = f.provider? chain := by
  obtain ⟨providers⟩ := f
  have hp : (p.chain == chain) = false := beq_false_of_ne fun e => h e.symm
  simp only [put, provider?]
  induction providers with
  | nil => simp only [insert, List.find?_cons, hp]
  | cons q rest ih =>
    simp only [insert]
    split
    · rename_i same
      have hq : (q.chain == chain) = false := by rw [← same]; exact hp
      simp only [List.find?_cons, hp, hq]
    · split
      · simp only [List.find?_cons, hp]
      · simp only [List.find?_cons]
        split
        · rfl
        · exact ih

end Fleet

/-- A fleet, the endpoints behind it, and the requests that were sent, the
    latest first. -/
structure Network (σ : Type) where
  /-- The fleet. -/
  fleet : Fleet
  /-- The endpoints. -/
  world : σ
  /-- What was sent. -/
  tries : List Provider.Try

namespace Network

variable {σ : Type}

/-- Runs a call on the provider of a chain. -/
def on {α : Type} (chain : ChainId)
    (call : Provider.Session σ → α × Provider.Session σ) (n : Network σ) :
    Except Failure α × Network σ :=
  match n.fleet.provider? chain with
  | none => (.error (.chainNotFound chain), n)
  | some p =>
    let r := call ⟨p, n.world, n.tries⟩
    (.ok r.1, ⟨n.fleet.put r.2.provider, r.2.world, r.2.tries⟩)

/-- The nonce that the next transaction of an account has to carry. -/
def pendingCount (endpoints : Provider.Endpoints σ) (chain : ChainId) (account : Address)
    (n : Network σ) : Outcome UInt64 × Network σ :=
  match n.on chain (Provider.Session.pendingCount endpoints account) with
  | (.ok outcome, n) => (outcome, n)
  | (.error f, n) => (.failure f, n)

/-- A transaction on a chain. -/
def transaction (endpoints : Provider.Endpoints σ) (chain : ChainId) (hash : Hash)
    (n : Network σ) : Except Failure Rpc.ChainTransaction × Network σ :=
  match n.on chain (Provider.Session.transaction endpoints hash) with
  | (.ok r, n) => (r, n)
  | (.error f, n) => (.error f, n)

/-- Hands a signed transaction to a chain. -/
def sendRaw (endpoints : Provider.Endpoints σ) (chain : ChainId) (raw : Bytes)
    (n : Network σ) : Except Failure Hash × Network σ :=
  match n.on chain (Provider.Session.sendRaw endpoints raw) with
  | (.ok r, n) => (r, n)
  | (.error f, n) => (.error f, n)

/-- A call that takes no time. -/
def atOnce {α : Type} : Except Failure α → Reply α
  | .ok a => .after 0 (.value a)
  | .error f => .after 0 (.failure f)

/-- Looks a transaction up. Endpoints answer at once. -/
def lookup (endpoints : Provider.Endpoints σ) : Lookup (Network σ) := fun chain hash n =>
  let r := n.transaction endpoints chain hash
  (atOnce (r.1.map Rpc.ChainTransaction.pending), r.2)

/-- Hands over a transaction. Endpoints answer at once. -/
def broadcast (endpoints : Provider.Endpoints σ) : Broadcaster (Network σ) := fun chain raw n =>
  let r := n.sendRaw endpoints chain raw
  (atOnce r.1, r.2)

/-- Asks chains, one after another, whether they can be reached, and records
    it. -/
def probeAll (endpoints : Provider.Endpoints σ) :
    List ChainId → Surroundings (Network σ) → List (ChainId × Bool) × Surroundings (Network σ)
  | [], s => ([], s)
  | chain :: rest, s =>
    let r := s.world.on chain (Provider.Session.healthy endpoints)
    let healthy := match r.1 with
      | .ok b => b
      | .error _ => false
    let t := { s with world := r.2 }.measure fun m => m.recordChainHealth chain healthy
    let more := probeAll endpoints rest t
    ((chain, healthy) :: more.1, more.2)

end Network

end TxRelay
