import TxRelay.Proofs.Fleet.Walk
import TxRelay.Proofs.Metrics.Counting
import TxRelay.Proofs.Queue.Readings

/-!
# Probes

A probe asks chains one after another for their latest blocks, each by a walk of its
provider, and shows on a gauge for each of them whether it answered. Chains do not share
providers, so what is heard of one of them does not depend on those that were asked
before, apart from what the endpoints themselves remember. In particular a chain that
cannot be reached keeps none of the others from being asked.

`Network.Sounded` says of a probe as a whole what `Network.Walked` says of a call. It is
stated with the providers from before the probe, since that is where every walk begins.

## Main definitions

* `Sounding`: What was heard of a chain.
* `Network.Sounded`: What a probe does to a network.
* `Metrics.Shows`: What gauges show after a probe.

## Theorems

* `Provider.Talk.value_iff`: Which calls end with a value.
* `Network.probeAll_spec`: What a probe of chains does.
* `Network.probe_spec`: What a probe of all chains does.
-/

namespace TxRelay

/-- What was heard of a chain that was asked for its latest block. -/
structure Sounding where
  /-- The chain. -/
  chain : ChainId
  /-- What was said, the first exchange first. -/
  said : List Provider.Exchange
  /-- Whether it can be reached. -/
  healthy : Bool

namespace Provider

variable {α : Type} {request : Rpc.Request} {read : Json.Value → Option α} {p t : Provider}
  {left : Nat} {xs : List Exchange} {e : Ending α}

-- Only a value ends a call with one.
theorem Verdict.ending_eq_value {v : Verdict α} {a : α} :
    v.ending = .value a ↔ v = .value a := by
  cases v <;> simp [ending]

/-- A call ends with a value if one was said before anybody refused. -/
theorem Talk.value_iff (talk : Talk request read p left xs e t) :
    (∃ a, e = .value a) ↔ ∃ before x after, xs = before ++ x :: after ∧
      (∃ a, x.verdict read = .value a) ∧ ∀ y ∈ before, ∀ r, y.verdict read ≠ .refused r := by
  obtain ⟨before, x, rfl, useless, rfl, -, -⟩ := talk.ending
  constructor
  · rintro ⟨a, value⟩
    refine ⟨before, x, [], rfl, ⟨a, Verdict.ending_eq_value.mp value⟩, fun y mem r refused => ?_⟩
    exact absurd ((useless y mem).symm.trans refused) (by simp)
  · rintro ⟨front, y, after, same, ⟨a, value⟩, -⟩
    -- Only the last exchange can have been of use.
    have mem : y ∈ before ++ [x] := same ▸ List.mem_append_right front List.mem_cons_self
    rcases List.mem_append.mp mem with early | last
    · exact absurd ((useless y early).symm.trans value) (by simp)
    · rw [List.mem_singleton.mp last] at value
      exact ⟨a, Verdict.ending_eq_value.mpr value⟩

namespace Session

variable {σ : Type}

/-- Whether a chain can be reached, by how the call for its latest block ends. -/
def reached (_ : Provider) : Ending Nat → Bool
  | .value _ => true
  | .refused _ => false
  | .exhausted => false

theorem healthy_eq (endpoints : Endpoints σ) (s : Session σ) :
    s.healthy endpoints =
      (reached s.provider (s.walk endpoints .blockNumber (Rpc.quantity? 8)).1,
        (s.walk endpoints .blockNumber (Rpc.quantity? 8)).2) := by
  unfold healthy blockNumber
  dsimp only
  cases (s.walk endpoints .blockNumber (Rpc.quantity? 8)).1 <;> rfl

-- It can if there is one.
theorem reached_iff (p : Provider) (e : Ending Nat) :
    reached p e = true ↔ ∃ block, e = .value block := by
  cases e <;> simp [reached]

end Session

end Provider

namespace Metrics

/-- What gauges show after chains were asked. Nothing else is written. -/
structure Shows (bs : List Sounding) (m m' : Metrics) : Prop where
  /-- Every chain that was asked shows whether it can be reached. -/
  shown : ∀ b ∈ bs, m'.connected.get? (toString b.chain) = some (if b.healthy then 1 else 0)
  /-- Other gauges show what they did. -/
  others : ∀ label, (∀ b ∈ bs, label ≠ toString b.chain) →
    m'.connected.get? label = m.connected.get? label
  /-- Other metrics stay as they are. -/
  rest : m' = { m with connected := m'.connected }

theorem Shows.nil (m : Metrics) : Shows [] m m :=
  ⟨fun _ mem => absurd mem List.not_mem_nil, fun _ _ => rfl, rfl⟩

-- A gauge is written once.
theorem Shows.cons {bs : List Sounding} {b : Sounding} {m m' : Metrics}
    (shows : Shows bs (m.recordChainHealth b.chain b.healthy) m')
    (apart : b.chain ∉ bs.map Sounding.chain) : Shows (b :: bs) m m' := by
  refine ⟨List.forall_mem_cons.mpr ⟨?_, shows.shown⟩, fun label other => ?_, shows.rest⟩
  · have untouched : ∀ c ∈ bs, toString b.chain ≠ toString c.chain := fun c mem same =>
      apart (ChainId.toString_inj same ▸ List.mem_map_of_mem mem)
    rw [shows.others _ untouched]
    exact Labelled.get?_adjust_set _ _ _ _
  · rw [List.forall_mem_cons] at other
    rw [shows.others label other.2]
    exact Labelled.get?_adjust_other _ _ _ other.1

end Metrics

namespace Network

open Provider

variable {σ : Type} {endpoints : Endpoints σ} {n m k : Network σ} {bs : List Sounding}
  {b : Sounding} {p : Provider} {e : Ending Nat}

/-- What a probe does to a network in which the chains have providers. -/
structure Sounded (endpoints : Endpoints σ) (n : Network σ) (bs : List Sounding)
    (m : Network σ) : Prop where
  /-- Each chain is asked by a walk of its provider, from the active endpoint on. -/
  walks : ∀ b ∈ bs, ∃ p e t, n.fleet.provider? b.chain = some p ∧
    Talk .blockNumber (Rpc.quantity? 8) p (p.urls.length - 1) b.said e t ∧
      m.fleet.provider? b.chain = some t
  /-- It can be reached if some endpoint gave a block before any of them refused. -/
  healthy : ∀ b ∈ bs, b.healthy = true ↔ ∃ before x after, b.said = before ++ x :: after ∧
    (∃ block, x.verdict (Rpc.quantity? 8) = .value block) ∧
      ∀ y ∈ before, ∀ r, y.verdict (Rpc.quantity? 8) ≠ .refused r
  /-- Other chains keep their providers. -/
  others : ∀ other, other ∉ bs.map Sounding.chain →
    m.fleet.provider? other = n.fleet.provider? other
  /-- The replies are the endpoints'. -/
  replied : Replied endpoints n.url? (bs.flatMap Sounding.said) n.world m.world
  /-- The tries are kept, and there are no others. -/
  tries : m.tries = ((bs.flatMap Sounding.said).map Exchange.made).reverse ++ n.tries

theorem Sounded.nil (n : Network σ) : Sounded endpoints n [] n where
  walks _ mem := absurd mem List.not_mem_nil
  healthy _ mem := absurd mem List.not_mem_nil
  others _ _ := rfl
  replied := .nil _
  tries := rfl

-- A chain is asked, and then the others, none of which is that chain.
theorem Sounded.cons (known : n.fleet.provider? b.chain = some p)
    (walked : Walked endpoints b.chain .blockNumber (Rpc.quantity? 8) n p b.said e m)
    (heard : b.healthy = true ↔ ∃ block, e = .value block) (rest : Sounded endpoints m bs k)
    (apart : b.chain ∉ bs.map Sounding.chain) : Sounded endpoints n (b :: bs) k := by
  obtain ⟨t, talk, there⟩ := walked.talk
  have elsewhere (c) (mem : c ∈ bs) : c.chain ≠ b.chain := fun same =>
    apart (same ▸ List.mem_map_of_mem mem)
  refine ⟨List.forall_mem_cons.mpr ⟨?_, fun c mem => ?_⟩,
    List.forall_mem_cons.mpr ⟨heard.trans talk.value_iff, rest.healthy⟩,
    fun other none => ?_, ?_, ?_⟩
  · exact ⟨p, e, t, known, talk, (rest.others _ apart).trans there⟩
  · obtain ⟨q, f, u, before, said, after⟩ := rest.walks c mem
    exact ⟨q, f, u, (walked.others _ (elsewhere c mem)).symm.trans before, said, after⟩
  · rw [List.map_cons, List.mem_cons, not_or] at none
    exact (rest.others other none.2).trans (walked.others other none.1)
  · have same := walked.toSpoken.url? known
    exact walked.replied.append (rest.replied.congr fun x mem => congrFun same.symm _)
  · rw [rest.tries, walked.tries, List.flatMap_cons, List.map_append, List.reverse_append,
      List.append_assoc]

-- A call leaves the providers of other chains where they are.
theorem Walked.known {α : Type} {request : Rpc.Request} {read : Json.Value → Option α}
    {chain : ChainId} {xs : List Exchange} {e : Ending α} {chains : List ChainId}
    (walked : Walked endpoints chain request read n p xs e m) (apart : chain ∉ chains)
    (known : ∀ other ∈ chains, ∃ p, n.fleet.provider? other = some p) :
    ∀ other ∈ chains, ∃ p, m.fleet.provider? other = some p := by
  intro other mem
  rw [walked.others other fun same => apart (same ▸ mem)]
  exact known other mem

-- The first chain is asked by a walk, and what is heard of it is on record when the others
-- are asked.
theorem probeAll_cons {chain : ChainId} {s : Surroundings (Network σ)}
    (here : s.world.fleet.provider? chain = some p) :
    ∃ (b : Sounding) (e : Ending Nat) (t : Surroundings (Network σ)), b.chain = chain ∧
      (b.healthy = true ↔ ∃ block, e = .value block) ∧
      Walked endpoints chain .blockNumber (Rpc.quantity? 8) s.world p b.said e t.world ∧
      t = { s with
        world := t.world
        metrics := s.metrics.recordChainHealth chain b.healthy } ∧
      ∀ rest, probeAll endpoints (chain :: rest) s =
        ((chain, b.healthy) :: (probeAll endpoints rest t).1, (probeAll endpoints rest t).2) := by
  obtain ⟨e, n, walked, on⟩ := on_walked (Session.healthy_eq endpoints) here
  refine ⟨⟨chain, _, Session.reached p e⟩, e, { s with
    world := n
    metrics := s.metrics.recordChainHealth chain (Session.reached p e) }, rfl,
    Session.reached_iff p e, walked, rfl, fun rest => ?_⟩
  rw [probeAll, on]
  rfl

-- By induction on the chains that are left, with all that was left by those before.
theorem probeAll_spec {chains : List ChainId} (distinct : chains.Nodup)
    (s : Surroundings (Network σ))
    (known : ∀ chain ∈ chains, ∃ p, s.world.fleet.provider? chain = some p) :
    ∃ bs m gauges, bs.map Sounding.chain = chains ∧ Sounded endpoints s.world bs m ∧
      Metrics.Shows bs s.metrics gauges ∧
      probeAll endpoints chains s = (bs.map fun b => (b.chain, b.healthy),
        { s with world := m, metrics := gauges }) := by
  induction chains generalizing s with
  | nil => exact ⟨[], s.world, s.metrics, rfl, .nil _, .nil _, rfl⟩
  | cons chain chains ih =>
    obtain ⟨apart, others⟩ := List.nodup_cons.mp distinct
    obtain ⟨⟨p, here⟩, there⟩ := List.forall_mem_cons.mp known
    obtain ⟨b, e, t, rfl, heard, walked, left, probes⟩ := probeAll_cons here
    obtain ⟨bs, m, gauges, rfl, sounded, shows, more⟩ := ih others t (walked.known apart there)
    rw [left] at shows
    refine ⟨b :: bs, m, gauges, rfl, .cons here walked heard sounded apart,
      .cons shows apart, ?_⟩
    rw [probes, more, left]
    rfl

/-- What a probe of all chains does, in whichever order. -/
theorem probe_spec (endpoints : Endpoints σ) (order : Fleet.Order) (s : Surroundings (Network σ))
    (ordered : s.world.fleet.Ordered) :
    ∃ bs m gauges, bs.map Sounding.chain = order.arrange s.world.fleet.connected ∧
      Sounded endpoints s.world bs m ∧ Metrics.Shows bs s.metrics gauges ∧
      probeAll endpoints (order.arrange s.world.fleet.connected) s =
        (bs.map fun b => (b.chain, b.healthy), { s with world := m, metrics := gauges }) :=
  probeAll_spec ((order.perm _).nodup_iff.mpr ordered.nodup) s fun _ mem =>
    Fleet.mem_connected.mp ((order.perm _).mem_iff.mp mem)

end Network

end TxRelay
