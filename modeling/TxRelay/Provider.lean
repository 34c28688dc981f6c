import TxRelay.Clock
import TxRelay.Rpc.Result
import TxRelay.Settings.Basic
import TxRelay.Url.Basic

/-!
# Providers

A chain is reached through one or more endpoints, one of which is active. A
call goes to the active endpoint. An endpoint that cannot be reached, or sends
something that cannot be read, hands the call on: the next endpoint, in a
circle, becomes active and is tried. A call ends with the first endpoint that
gives a result or refuses, and that endpoint stays active; it fails when as
many endpoints were tried as there are. After the last try the active endpoint
does not change any more.

The active endpoint is shared by all calls of a provider. A call looks it up
at every try, so calls that overlap push each other on. `Provider.Call` is one
call as it takes part in such a mix, try by try; `Provider.walk` is a call
alone.

## Main definitions

* `Provider`: The endpoints of a chain and the active one.
* `Provider.ofSettings`: The provider of a chain.
* `Provider.failover`: The next endpoint becomes active.
* `Provider.Call`: A call under way.
* `Provider.walk`: A call alone, from its first try to its end.
* `Provider.blockNumber`, `Provider.pendingCount`, `Provider.transaction`,
  `Provider.sendRaw`, `Provider.healthy`: The operations.

## Theorems

* `Provider.failover_active`: The next endpoint, in a circle.
-/

namespace TxRelay

/-- The endpoints of a chain and the active one. -/
structure Provider where
  /-- The chain. -/
  chain : ChainId
  /-- Its name. -/
  name : String
  /-- The endpoints. -/
  urls : List Url
  /-- The position of the active one. -/
  active : Nat
  /-- It is one of them, so there is at least one. -/
  active_lt : active < urls.length

namespace Provider

/-- The provider of a chain. Texts that are no URLs are left out, and there
    has to be another one. -/
def ofSettings (c : ChainSettings) : Except Failure Provider :=
  -- The order of the settings is the order in which endpoints are tried.
  let urls := c.urls.filterMap Url.parse?
  if h : 0 < urls.length then .ok ⟨c.chain, c.name, urls, 0, h⟩
  else .error (.chainConnection c.chain "No valid RPC providers")

/-- The active endpoint. -/
def url (p : Provider) : Url :=
  p.urls.get ⟨p.active, p.active_lt⟩

/-- The next endpoint becomes active. -/
def failover (p : Provider) : Provider :=
  { p with
    active := (p.active + 1) % p.urls.length
    active_lt := Nat.mod_lt _ (Nat.zero_lt_of_lt p.active_lt) }

/-- The next endpoint, in a circle. -/
theorem failover_active (p : Provider) :
    p.failover.active = (p.active + 1) % p.urls.length := rfl

/-- What one try comes to. -/
inductive Verdict (α : Type) where
  /-- A result that can be read. -/
  | value (a : α)
  /-- The node refuses. -/
  | refused (r : Rpc.Refusal)
  /-- The endpoint is of no use. -/
  | failed

/-- Reads a reply. -/
def Verdict.ofReply {α : Type} (read : Json.Value → Option α) : Rpc.Reply → Verdict α
  | .result v =>
    match read v with
    | some a => .value a
    | none => .failed
  | .refused r => .refused r
  | .unreadable => .failed

/-- How a call ends. -/
inductive Ending (α : Type) where
  /-- With a result. -/
  | value (a : α)
  /-- A node refused. -/
  | refused (r : Rpc.Refusal)
  /-- No endpoint was of use. -/
  | exhausted

/-- A call under way: to which endpoint the request went that is now waited
    for, and how many further tries there may be. -/
structure Call where
  /-- The position of the endpoint. -/
  target : Nat
  /-- The tries that are left. -/
  left : Nat
  deriving DecidableEq

/-- Begins a call: its first request goes to the active endpoint. -/
def begin (p : Provider) : Call :=
  ⟨p.active, p.urls.length - 1⟩

/-- A call hears from its endpoint, and may change the active one and try
    again. -/
def hear {α : Type} (v : Verdict α) (c : Call) (p : Provider) : (Ending α ⊕ Call) × Provider :=
  match v with
  | .value a => (.inl (.value a), p)
  | .refused r => (.inl (.refused r), p)
  | .failed =>
    match c.left with
    -- The last try leaves the active endpoint as it is.
    | 0 => (.inl .exhausted, p)
    | left + 1 => (.inr ⟨p.failover.active, left⟩, p.failover)

/-- A request that was sent, and where to. -/
structure Try where
  /-- The chain. -/
  chain : ChainId
  /-- The position of the endpoint. -/
  target : Nat
  /-- The request. -/
  request : Rpc.Request

/-- The endpoints behind all URLs: what they make of a request, and how they
    are afterwards. These reply; `Silence` is for those that do not. -/
abbrev Endpoints (σ : Type) := Url → Rpc.Request → σ → Rpc.Reply × σ

/-- A provider, the endpoints, and the requests that were sent, the latest
    first. -/
structure Session (σ : Type) where
  /-- The provider. -/
  provider : Provider
  /-- The endpoints. -/
  world : σ
  /-- What was sent. -/
  tries : List Try

namespace Session

variable {σ : Type}

/-- Sends a request to the active endpoint. -/
def ask (endpoints : Endpoints σ) (request : Rpc.Request) (s : Session σ) :
    Rpc.Reply × Session σ :=
  let r := endpoints s.provider.url request s.world
  (r.1, { s with
    world := r.2
    tries := ⟨s.provider.chain, s.provider.active, request⟩ :: s.tries })

/-- Makes the tries of a call, of which so many are left behind the next. -/
def walkFrom {α : Type} (endpoints : Endpoints σ) (request : Rpc.Request)
    (read : Json.Value → Option α) : Nat → Session σ → Ending α × Session σ
  | left, s =>
    let r := s.ask endpoints request
    match hear (Verdict.ofReply read r.1) ⟨s.provider.active, left⟩ r.2.provider with
    | (.inl ending, _) => (ending, r.2)
    | (.inr _, provider) =>
      match left with
      -- Without a try left, hearing of a failure ends the call above.
      | 0 => (.exhausted, r.2)
      | rest + 1 => walkFrom endpoints request read rest { r.2 with provider := provider }

/-- A call alone, from its first try to its end. -/
def walk {α : Type} (endpoints : Endpoints σ) (request : Rpc.Request)
    (read : Json.Value → Option α) (s : Session σ) : Ending α × Session σ :=
  walkFrom endpoints request read s.provider.begin.left s

end Session

/-- What a refusal means for anything but a broadcast. -/
def refusal (p : Provider) (r : Rpc.Refusal) : Failure :=
  .chainConnection p.chain r.text

/-- No endpoint was of use. -/
def exhausted (p : Provider) (operation : String) : Failure :=
  .chainConnection p.chain ("All providers failed to " ++ operation)

/-- The crash when a count does not fit into a nonce. -/
def castText : String := "Integer overflow when casting to u64"

namespace Session

variable {σ : Type}

/-- The result of a call that only queries. -/
def query {α : Type} (operation : String) (p : Provider) : Ending α → Except Failure α
  | .value a => .ok a
  | .refused r => .error (p.refusal r)
  | .exhausted => .error (p.exhausted operation)

/-- The number of the latest block. -/
def blockNumber (endpoints : Endpoints σ) (s : Session σ) : Except Failure Nat × Session σ :=
  let r := s.walk endpoints .blockNumber (Rpc.quantity? 8)
  (query "get block number" s.provider r.1, r.2)

/-- The nonce that the next transaction of an account has to carry. -/
def pendingCount (endpoints : Endpoints σ) (account : Address) (s : Session σ) :
    Outcome UInt64 × Session σ :=
  let r := s.walk endpoints (.pendingCount account) (Rpc.quantity? 32)
  match query "get pending nonce" s.provider r.1 with
  -- Counts are read with more bits than a nonce has.
  | .ok n => (if n < UInt64.size then .value n.toUInt64 else .crash castText, r.2)
  | .error f => (.failure f, r.2)

/-- A transaction. That a node does not know it is no reason to ask another
    one. -/
def transaction (endpoints : Endpoints σ) (hash : Hash) (s : Session σ) :
    Except Failure Rpc.ChainTransaction × Session σ :=
  let r := s.walk endpoints (.transaction hash) Rpc.transaction?
  match query "get transaction" s.provider r.1 with
  | .ok (some t) => (.ok t, r.2)
  | .ok none => (.error (.transactionNotFound hash s.provider.chain), r.2)
  | .error f => (.error f, r.2)

/-- Hands over a signed transaction. What a node says against it is kept as it
    is. -/
def sendRaw (endpoints : Endpoints σ) (raw : Bytes) (s : Session σ) :
    Except Failure Hash × Session σ :=
  let r := s.walk endpoints (.sendRaw raw) (Rpc.fixed? 32)
  match r.1 with
  | .value hash => (.ok hash, r.2)
  | .refused refusal => (.error (.transaction refusal.text), r.2)
  | .exhausted => (.error (s.provider.exhausted "send raw transaction"), r.2)

/-- Whether the chain can be reached. -/
def healthy (endpoints : Endpoints σ) (s : Session σ) : Bool × Session σ :=
  let r := s.blockNumber endpoints
  (r.1.isOk, r.2)

end Session

end Provider

end TxRelay
