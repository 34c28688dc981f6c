import TxRelay.Api.Service

/-!
# Endpoints that Never Reply

An endpoint that refuses connections, drops them or sends what nobody can read is of no
use, and a call goes on to the next one. An endpoint can also take a request and say
nothing at all. Nothing limits how long a call waits for its endpoint, so such a call
neither goes on nor ends.

A probe asks the chains one after another. When it waits for ever for one of them, the
request for readiness is never answered, and the chains that come after are not asked.
What was done until then stays: endpoints that were of no use are not active any more, and
the gauges of the chains before were written.

## Main definitions

* `Provider.Silence`: Which requests are never replied to.
* `Provider.Session.stuck`, `Network.stuckOn`, `Network.stuck`: Where a call, and where a
  probe, waits for ever.
* `Api.Service.await`: What comes of a request for readiness.
-/

namespace TxRelay

namespace Provider

/-- Which requests the endpoints never reply to. What they would reply does not matter. -/
abbrev Silence (σ : Type) := Url → Rpc.Request → σ → Bool

namespace Session

variable {σ : Type}

/-- Where a call with so many tries behind the next waits for ever, if it does. -/
def stuckFrom {α : Type} (silent : Silence σ) (endpoints : Endpoints σ) (request : Rpc.Request)
    (read : Json.Value → Option α) : Nat → Session σ → Option (Session σ)
  | left, s =>
    let r := s.ask endpoints request
    if silent s.provider.url request s.world then some r.2
    else
      match Verdict.ofReply read r.1, left with
      | .failed, rest + 1 =>
        stuckFrom silent endpoints request read rest { r.2 with provider := s.provider.failover }
      | _, _ => none

/-- Where a call alone waits for ever, if it does. -/
def stuck {α : Type} (silent : Silence σ) (endpoints : Endpoints σ) (request : Rpc.Request)
    (read : Json.Value → Option α) (s : Session σ) : Option (Session σ) :=
  s.stuckFrom silent endpoints request read s.provider.begin.left

end Session

end Provider

namespace Network

variable {σ : Type}

/-- Where a call on a chain waits for ever, if it does. -/
def stuckOn {α : Type} (silent : Provider.Silence σ) (endpoints : Provider.Endpoints σ)
    (chain : ChainId) (request : Rpc.Request) (read : Json.Value → Option α) (n : Network σ) :
    Option (Network σ) :=
  match n.fleet.provider? chain with
  | none => none
  | some p =>
    match Provider.Session.stuck silent endpoints request read ⟨p, n.world, n.tries⟩ with
    | some s => some ⟨n.fleet.put s.provider, s.world, s.tries⟩
    | none => none

/-- Where a probe of chains waits for ever, if it does. -/
def stuck (silent : Provider.Silence σ) (endpoints : Provider.Endpoints σ) :
    List ChainId → Surroundings (Network σ) → Option (Surroundings (Network σ))
  | [], _ => none
  | chain :: rest, s =>
    match s.world.stuckOn silent endpoints chain .blockNumber (Rpc.quantity? 8) with
    | some n => some { s with world := n }
    | none => stuck silent endpoints rest (probeAll endpoints [chain] s).2

end Network

namespace Api

namespace Service

variable {σ : Type}

/-- What comes of a request for readiness when some requests are never replied to: the
    answer, if there is one, and what is left. -/
def await (silent : Provider.Silence σ) (c : Setup σ) (s : Service σ) :
    Option Answer × Service σ :=
  let chains := c.order.arrange s.fleet.connected
  match Network.stuck silent c.endpoints chains s.queue.outside with
  | some outside => (none, s.withOutside outside)
  | none =>
    let a := s.ready c
    (some a.1, a.2)

end Service

end Api

end TxRelay
