import TxRelay.Proofs.Provider.Circle

/-!
# Calls on a Fleet

A call on a chain is a walk of that chain's provider. `Provider.Talk` says how the
exchanges of a walk follow one another, and leaves open where the replies come from.
Here they are tied to the endpoints: the replies of a walk are what the endpoints say
that have the URLs of the provider, one after another, and nothing else is asked of
them (`Provider.Replied`). With that, `Network.Walked` says all there is to say of a
call on a chain that is connected.

A fleet keeps its providers in the order of their chains. Calls put providers back that
they took out, so the order stays, and what is left of a provider after any number of
calls is how far it was turned.

## Main definitions

* `Fleet.Ordered`: The chains of a fleet rise.
* `Provider.Replied`: Exchanges with what the endpoints said.
* `Network.Walked`: What a call on a connected chain does.

## Theorems

* `Fleet.mem_connected`: The chains of a fleet are those with a provider.
* `Fleet.Ordered.put`: A fleet stays in order.
* `Provider.Session.walk_replied`: The replies of a walk are the endpoints'.
* `Network.on_walked`: A call on a connected chain is a walk.
* `Network.provider?_on`: What a call leaves of the providers.
-/

namespace TxRelay

namespace Fleet

/-- The chains of a fleet rise. -/
def Ordered (f : Fleet) : Prop :=
  f.connected.Pairwise (· < ·)

variable {f : Fleet} {p : Provider} {chain : ChainId}

/-- The chains of a fleet are those with a provider. -/
theorem mem_connected : chain ∈ f.connected ↔ ∃ p, f.provider? chain = some p := by
  unfold connected provider?
  rw [← Option.isSome_iff_exists, List.find?_isSome, List.mem_map]
  simp only [beq_iff_eq]

theorem Ordered.nodup (ordered : f.Ordered) : f.connected.Nodup :=
  ordered.imp UInt64.ne_of_lt

-- The chains after a provider was put in.
theorem mem_insert {providers : List Provider} {q : Provider} (mem : q ∈ insert p providers) :
    q = p ∨ q ∈ providers := by
  induction providers with
  | nil => exact Or.inl (List.mem_singleton.mp mem)
  | cons r rest ih =>
    unfold insert at mem
    split at mem
    · exact (List.mem_cons.mp mem).imp_right (List.mem_cons_of_mem r)
    · split at mem
      · exact List.mem_cons.mp mem
      · rcases List.mem_cons.mp mem with rfl | later
        · exact Or.inr List.mem_cons_self
        · exact (ih later).imp_right (List.mem_cons_of_mem r)

/-- A fleet stays in order. -/
theorem Ordered.put (ordered : f.Ordered) (p : Provider) : (f.put p).Ordered := by
  rcases f with ⟨providers⟩
  unfold Ordered connected Fleet.put at *
  rw [List.pairwise_map] at *
  induction providers with
  | nil => exact List.pairwise_singleton _ _
  | cons q rest ih =>
    have split := List.pairwise_cons.mp ordered
    unfold insert
    by_cases here : p.chain = q.chain
    · rw [if_pos here]
      exact List.pairwise_cons.mpr ⟨fun r mem => here ▸ split.1 r mem, split.2⟩
    · rw [if_neg here]
      by_cases before : p.chain < q.chain
      · rw [if_pos before]
        refine List.pairwise_cons.mpr ⟨List.forall_mem_cons.mpr ⟨before, fun r mem => ?_⟩, ordered⟩
        exact UInt64.lt_trans before (split.1 r mem)
      · rw [if_neg before]
        refine List.pairwise_cons.mpr ⟨fun r mem => ?_, ih split.2⟩
        rcases mem_insert mem with rfl | later
        · exact UInt64.lt_of_le_of_ne (UInt64.not_lt.mp before) fun same => here same.symm
        · exact split.1 r later

end Fleet

namespace Provider

variable {σ α : Type} {endpoints : Endpoints σ} {request : Rpc.Request}
  {read : Json.Value → Option α}

/-- Requests were sent one after another to endpoints, whose URLs are known, and the
    replies are what these said. Nothing else happened to the endpoints. -/
inductive Replied (endpoints : Endpoints σ) (url? : Try → Option Url) :
    List Exchange → σ → σ → Prop where
  /-- Nothing was sent. -/
  | nil (w : σ) : Replied endpoints url? [] w w
  /-- A request was sent, and then the others. -/
  | cons {x : Exchange} {xs : List Exchange} {w v : σ} {url : Url}
      (there : url? x.made = some url) (reply : (endpoints url x.made.request w).1 = x.reply)
      (rest : Replied endpoints url? xs (endpoints url x.made.request w).2 v) :
      Replied endpoints url? (x :: xs) w v

namespace Replied

variable {url? other? : Try → Option Url} {xs ys : List Exchange} {u v w : σ}

theorem append (first : Replied endpoints url? xs u v) (second : Replied endpoints url? ys v w) :
    Replied endpoints url? (xs ++ ys) u w := by
  induction first with
  | nil => exact second
  | cons there reply rest ih => exact .cons there reply (ih second)

-- It only matters where requests went that were sent.
theorem congr (replied : Replied endpoints url? xs u v)
    (same : ∀ x ∈ xs, other? x.made = url? x.made) : Replied endpoints other? xs u v := by
  induction replied with
  | nil => exact .nil _
  | cons there reply rest ih =>
    rw [List.forall_mem_cons] at same
    exact .cons (same.1.trans there) reply (ih same.2)

end Replied

namespace Session

variable (endpoints request read)

-- By induction on the tries that are left, along with the call itself.
theorem walkFrom_replied (left : Nat) : ∀ s : Session σ,
    Replied endpoints (fun t => s.provider.urls[t.target]?)
      (s.talkFrom endpoints request read left) s.world
      (s.walkFrom endpoints request read left).2.world := by
  have active (s : Session σ) : s.provider.urls[s.provider.active]? = some s.provider.url :=
    List.getElem?_eq_getElem s.provider.active_lt
  induction left with
  | zero =>
    intro s
    rw [walkFrom_last (Or.inl rfl), talkFrom_last (Or.inl rfl)]
    exact .cons (active s) rfl (.nil _)
  | succ left ih =>
    intro s
    by_cases failed : Verdict.ofReply read (s.ask endpoints request).1 = .failed
    · rw [walkFrom_next failed, talkFrom_next failed]
      exact .cons (active s) rfl (ih { (s.ask endpoints request).2 with
        provider := s.provider.failover })
    · rw [walkFrom_last (Or.inr failed), talkFrom_last (Or.inr failed)]
      exact .cons (active s) rfl (.nil _)

/-- The replies of a walk are what the endpoints of the provider say. -/
theorem walk_replied (s : Session σ) :
    Replied endpoints (fun t => s.provider.urls[t.target]?) (s.talk endpoints request read)
      s.world (s.walk endpoints request read).2.world :=
  walkFrom_replied endpoints request read _ s

end Session

end Provider

namespace Network

open Provider

variable {σ α : Type} {endpoints : Endpoints σ} {chain : ChainId} {request : Rpc.Request}
  {read : Json.Value → Option α} {n m : Network σ} {p : Provider} {xs : List Exchange}
  {e : Ending α}

/-- Where a try went. -/
def url? (n : Network σ) (t : Try) : Option Url :=
  (n.fleet.provider? t.chain).bind fun p => p.urls[t.target]?

/-- What a call of one request does to a network whose chain has a provider, with what the
    endpoints said. -/
structure Walked (endpoints : Endpoints σ) (chain : ChainId) (request : Rpc.Request)
    (read : Json.Value → Option α) (n : Network σ) (p : Provider) (xs : List Exchange)
    (e : Ending α) (m : Network σ) : Prop extends Spoken chain request read n p xs e m where
  /-- The replies are the endpoints'. -/
  replied : Replied endpoints n.url? xs n.world m.world

/-- A call on a connected chain is a walk. -/
theorem on_walked {β : Type} {call : Session σ → β × Session σ} {report : Provider → Ending α → β}
    (asks : ∀ s : Session σ, call s =
      (report s.provider (s.walk endpoints request read).1, (s.walk endpoints request read).2))
    (known : n.fleet.provider? chain = some p) :
    ∃ e m, Walked endpoints chain request read n p (n.talk endpoints chain request read) e m ∧
      n.on chain call = (.ok (report p e), m) := by
  rcases on_spec endpoints chain request read call report asks n with
    ⟨unknown, -, -⟩ | ⟨q, e, m, known', spoken, on⟩
  · exact absurd (known.symm.trans unknown) (by simp)
  · obtain rfl := Option.some.inj (known.symm.trans known')
    refine ⟨e, m, ⟨spoken, ?_⟩, on⟩
    have said : n.talk endpoints chain request read =
        Session.talk endpoints request read ⟨p, n.world, n.tries⟩ := by
      unfold talk
      rw [known]
    have world : m.world = (Session.walk endpoints request read ⟨p, n.world, n.tries⟩).2.world := by
      have := congrArg (fun r => r.2.world) on
      unfold Network.on at this
      rw [known] at this
      dsimp only at this
      rw [asks] at this
      exact this.symm
    rw [said, world]
    -- All of it was sent to the chain, hence to the provider's endpoints.
    refine (Session.walk_replied endpoints request read ⟨p, n.world, n.tries⟩).congr
      fun x mem => ?_
    have made := ((Session.walk_talk endpoints request read ⟨p, n.world, n.tries⟩).1.made x mem).1
    unfold url?
    rw [made, Fleet.chain_of_provider? known, known]
    rfl

/-- Calls leave of the providers how far they were turned. -/
theorem provider?_on {β : Type} (chain : ChainId) (call : Session σ → β × Session σ)
    (turns : ∀ s : Session σ, ∃ k, (call s).2.provider = s.provider.turned k) (n : Network σ)
    (other : ChainId) :
    ∃ k, (n.on chain call).2.fleet.provider? other =
      (n.fleet.provider? other).map fun p => p.turned k := by
  have still : ∃ k, n.fleet.provider? other =
      (n.fleet.provider? other).map fun p => p.turned k := by
    refine ⟨0, ?_⟩
    simp only [turned_zero, Option.map_id']
  unfold Network.on
  cases known : n.fleet.provider? chain with
  | none => exact still
  | some p =>
    obtain ⟨k, turned⟩ := turns ⟨p, n.world, n.tries⟩
    have kept : (p.turned k).chain = p.chain := rfl
    have here := kept.trans (Fleet.chain_of_provider? known)
    dsimp only
    rw [turned]
    by_cases same : other = chain
    · refine ⟨k, ?_⟩
      rw [same, known, ← here]
      exact Fleet.provider?_put_self _ _
    · rw [Fleet.provider?_put_other (fun e => same (e.trans here))]
      exact still

-- Whatever a call does, the fleet stays in order.
theorem ordered_on {α : Type} (call : Session σ → α × Session σ) (ordered : n.fleet.Ordered) :
    (n.on chain call).2.fleet.Ordered := by
  unfold Network.on
  split
  · exact ordered
  · exact ordered.put _

-- A walk leaves the endpoints of all chains as they are.
theorem Spoken.url? (spoken : Spoken chain request read n p xs e m)
    (known : n.fleet.provider? chain = some p) : m.url? = n.url? := by
  funext t
  unfold Network.url?
  by_cases here : t.chain = chain
  · obtain ⟨q, talk, there⟩ := spoken.talk
    rw [here, there, known, Option.bind_some, Option.bind_some, talk.frame.2]
  · rw [spoken.others t.chain here]

end Network

end TxRelay
