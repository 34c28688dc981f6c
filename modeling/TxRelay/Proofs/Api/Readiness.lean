import TxRelay.Proofs.Api.Reach
import TxRelay.Proofs.Fleet.Silence

/-!
# Readiness

Whether a service can work is asked of the service and answered for it as a whole: the
queue has to run, and all chains have to be reachable. The answer is put together from
the soundings of a probe, which leaves out no chain, whatever was heard of the others and
whatever the queue is doing. So an operator reads off the details which chain it was, and
the gauges show the same.

That takes endpoints that reply, be it with nothing of use. A probe goes through the chains
one by one and waits for each endpoint as long as it takes. One that never replies keeps
the operator from learning of the chains behind it (`Service.Unanswered`).

A probe begins with the chains that the fleet lists, in some order. That none of them is
listed twice is a matter of the order in which fleets are kept (`Fleet.Ordered`). The fleets
of settings are in order (`Fleet.Serves`), and no run of a service disturbs it.

## Main definitions

* `Api.Readiness`: The answer that soundings call for.
* `Api.Service.Unanswered`: What is left when there is no answer.

## Theorems

* `Api.Service.ready_spec`: The answer to whether the program can work.
* `Api.Service.readiness_covers_every_chain`: What a request for it does.
* `Api.Service.silent_chain_hides_next`: A chain that is not asked.
-/

namespace TxRelay

namespace Api

/-- What is answered when chains were asked, whether the program can work. -/
inductive Readiness (lifecycle : Queue.Lifecycle) (bs : List Sounding) : Answer → Prop where
  /-- It can: the queue runs, and all chains can be reached. -/
  | ready (running : lifecycle = .running) (healthy : ∀ b ∈ bs, b.healthy = true) :
      Readiness lifecycle bs (.json 200
        [("ready", .bool true), ("queue", .str lifecycle.name), ("chains", .bool true),
          ("details", .arr (bs.map fun b =>
            .obj [("chain_id", .nat b.chain.toNat), ("healthy", .bool b.healthy)]))])
  /-- It cannot. -/
  | unready (not : ¬(lifecycle = .running ∧ ∀ b ∈ bs, b.healthy = true)) :
      Readiness lifecycle bs (.json 503
        [("ready", .bool false), ("queue", .str lifecycle.name),
          ("chains", .bool (bs.all Sounding.healthy)),
          ("details", .arr (bs.map fun b =>
            .obj [("chain_id", .nat b.chain.toNat), ("healthy", .bool b.healthy)]))])

namespace Service

variable {σ : Type} {s : Service σ}

/-- The answer to whether the program can work, with what a probe heard. -/
theorem ready_spec (c : Setup σ) (ordered : s.fleet.Ordered) :
    ∃ bs m gauges a, bs.map Sounding.chain = c.order.arrange s.fleet.connected ∧
      Network.Sounded c.endpoints s.queue.outside.world bs m ∧
      Metrics.Shows bs s.queue.outside.metrics gauges ∧ Readiness s.queue.lifecycle bs a ∧
      s.ready c =
        (a, s.withOutside { s.queue.outside with world := m, metrics := gauges }) := by
  obtain ⟨bs, m, gauges, chains, sounded, shows, probed⟩ :=
    Network.probe_spec c.endpoints c.order s.queue.outside ordered
  have all : (bs.map fun b => (b.chain, b.healthy)).all (·.2) = bs.all Sounding.healthy := by
    rw [List.all_map]
    rfl
  have isReady : (decide (s.queue.lifecycle = .running) && bs.all Sounding.healthy) = true ↔
      s.queue.lifecycle = .running ∧ ∀ b ∈ bs, b.healthy = true := by
    rw [Bool.and_eq_true, decide_eq_true_iff, List.all_eq_true]
  refine ⟨bs, m, gauges, (s.ready c).1, chains, sounded, shows, ?_, Prod.ext rfl ?_⟩
  · unfold ready probe fleet
    dsimp only
    rw [probed]
    dsimp only
    rw [all, List.map_map]
    by_cases well : s.queue.lifecycle = .running ∧ ∀ b ∈ bs, b.healthy = true
    · rw [isReady.mpr well, List.all_eq_true.mpr well.2]
      exact .ready well.1 well.2
    · rw [Bool.eq_false_iff.mpr (mt isReady.mp well)]
      exact .unready well
  · unfold ready probe fleet
    dsimp only
    rw [probed]

/-- What is left of a service whose answer is waited for for ever. -/
structure Unanswered (silent : Provider.Silence σ) (c : Setup σ) (s : Service σ)
    (before : List ChainId) (chain : ChainId) (t : Service σ) : Prop where
  /-- The chains that are probed before the one that is waited for are asked as ever, and
      their gauges show what was heard. -/
  heard : ∃ bs m, bs.map Sounding.chain = before ∧
    Network.Sounded c.endpoints s.queue.outside.world bs m ∧
    Metrics.Shows bs s.queue.outside.metrics t.queue.outside.metrics ∧
    (Network.probeAll c.endpoints before s.queue.outside).2 =
      { s.queue.outside with world := m, metrics := t.queue.outside.metrics }
  /-- Then this one is asked, and nothing else. -/
  held : Network.Held silent c.endpoints s.queue.outside before chain t.queue.outside
  /-- The queue and the nonces stay as they are. -/
  rest : t = s.withOutside t.queue.outside

-- Until it waits, a probe does what any probe of those chains does.
theorem unanswered_of_stuck {silent : Provider.Silence σ} {c : Setup σ}
    {outside : Surroundings (Network σ)} (ordered : s.fleet.Ordered)
    (stuck : Network.stuck silent c.endpoints (c.order.arrange s.fleet.connected)
      s.queue.outside = some outside) :
    ∃ before chain after, c.order.arrange s.fleet.connected = before ++ chain :: after ∧
      Unanswered silent c s before chain (s.withOutside outside) := by
  obtain ⟨before, chain, after, chains, held⟩ := Network.held_of_stuck stuck
  have distinct := (c.order.perm s.fleet.connected).nodup_iff.mpr ordered.nodup
  rw [chains] at distinct
  have known (other) (mem : other ∈ before) : ∃ p, s.fleet.provider? other = some p :=
    Fleet.mem_connected.mp ((c.order.perm _).mem_iff.mp (chains ▸ List.mem_append_left _ mem))
  obtain ⟨bs, m, gauges, rfl, sounded, shows, probed⟩ :=
    @Network.probeAll_spec _ c.endpoints _ (List.nodup_append.mp distinct).1 s.queue.outside known
  refine ⟨_, chain, after, chains, ⟨⟨bs, m, rfl, sounded, ?_, ?_⟩, held, rfl⟩⟩
  all_goals
    obtain ⟨u, p, xs, q, v, left, -, -, rfl⟩ := held
    rw [probed] at left
    subst left
  · exact shows
  · rw [probed]
    rfl

-- A request is answered, or its probe waits for ever.
theorem await_cases (silent : Provider.Silence σ) (c : Setup σ) (s : Service σ) :
    (Network.stuck silent c.endpoints (c.order.arrange s.fleet.connected) s.queue.outside = none ∧
      s.await silent c = (some (s.ready c).1, (s.ready c).2)) ∨
    ∃ outside, Network.stuck silent c.endpoints (c.order.arrange s.fleet.connected)
        s.queue.outside = some outside ∧
      s.await silent c = (none, s.withOutside outside) := by
  unfold await
  dsimp only
  cases Network.stuck silent c.endpoints (c.order.arrange s.fleet.connected) s.queue.outside with
  | none => exact Or.inl ⟨rfl, rfl⟩
  | some outside => exact Or.inr ⟨outside, rfl, rfl⟩

/-- What a request for whether the program can work does, in whichever order the chains are
    probed, whichever endpoints are active, and whatever the queue is doing.

    With endpoints that reply, every chain that is connected is asked once, by a walk that
    begins at its active endpoint, also after one that cannot be reached, and nothing else
    is asked of any endpoint. The answer lists what was heard of each, the gauges show it,
    and nothing else changes. An endpoint that cannot be connected to, or whose reply
    cannot be read, is of no use, which is a reply like others.

    The answer is waited for for ever if, and only if, the probe comes to an endpoint that
    never replies. Chains before it are asked and shown as ever, and chains after it are
    not. That does not happen where all endpoints of the connected chains reply. Fleets stay
    in order in every run. -/
theorem readiness_covers_every_chain (c : Setup σ) (silent : Provider.Silence σ)
    (s : Service σ) (ordered : s.fleet.Ordered) (r : Request)
    (path : Resource.ofPath? r.path = some .ready)
    (allowed : Resource.ready.allows r.method = true) :
    (∃ bs m gauges a t, bs.map Sounding.chain = c.order.arrange s.fleet.connected ∧
      (bs.map Sounding.chain).Perm s.fleet.connected ∧ (bs.map Sounding.chain).Nodup ∧
      Network.Sounded c.endpoints s.queue.outside.world bs m ∧
      Metrics.Shows bs s.queue.outside.metrics gauges ∧ Readiness s.queue.lifecycle bs a ∧
      t = s.withOutside { s.queue.outside with world := m, metrics := gauges } ∧
      s.handle c r = (.now (if r.method = "HEAD" then a.headOnly else a), t) ∧
      ((s.await silent c).1.isSome = true → s.await silent c = (some a, t))) ∧
    ((s.await silent c).1 = none ↔ ∃ before chain after outside,
      c.order.arrange s.fleet.connected = before ++ chain :: after ∧
      Network.Held silent c.endpoints s.queue.outside before chain outside) ∧
    ((s.await silent c).1 = none → ∃ before chain after,
      c.order.arrange s.fleet.connected = before ++ chain :: after ∧
      Unanswered silent c s before chain (s.await silent c).2) ∧
    ((∀ chain p, s.fleet.provider? chain = some p → ∀ url ∈ p.urls, ∀ w,
      silent url .blockNumber w = false) → (s.await silent c).1.isSome = true) ∧
    ∀ pace moves, (s.play c pace moves).fleet.Ordered := by
  have cases := s.await_cases silent c
  have perm := c.order.perm s.fleet.connected
  refine ⟨?_, ⟨fun none => ?_, ?_⟩, fun none => ?_, fun heard => ?_, fun pace moves => ?_⟩
  · obtain ⟨bs, m, gauges, a, chains, sounded, shows, answer, ready⟩ := s.ready_spec c ordered
    refine ⟨bs, m, gauges, a, _, chains, chains ▸ perm,
      chains ▸ perm.nodup_iff.mpr ordered.nodup, sounded, shows, answer, rfl, ?_,
      fun answered => ?_⟩
    · have asks : r.method ≠ "OPTIONS" := by
        intro options
        rw [options] at allowed
        exact absurd allowed (by decide)
      unfold handle
      rw [if_neg asks, path]
      dsimp only
      rw [if_pos allowed, visit, ready]
    · obtain ⟨-, same⟩ | ⟨outside, -, same⟩ := cases
      · rw [same, ready]
      · rw [same] at answered
        exact absurd answered (by simp)
  · obtain ⟨-, same⟩ | ⟨outside, stuck, -⟩ := cases
    · exact absurd (same ▸ none) (by simp)
    · obtain ⟨before, chain, after, chains, held⟩ := Network.held_of_stuck stuck
      exact ⟨before, chain, after, outside, chains, held⟩
  · rintro ⟨before, chain, after, outside, chains, held⟩
    have waits := Network.stuck_of_held held after
    rw [← chains] at waits
    obtain ⟨heard, -⟩ | ⟨outside, -, same⟩ := cases
    · exact absurd (heard ▸ waits) (by simp)
    · rw [same]
  · obtain ⟨-, same⟩ | ⟨outside, stuck, same⟩ := cases
    · exact absurd (same ▸ none) (by simp)
    · rw [same]
      exact unanswered_of_stuck ordered stuck
  · obtain ⟨-, same⟩ | ⟨outside, stuck, -⟩ := cases
    · rw [same]
      rfl
    · -- The endpoint that is waited for is one of a connected chain.
      obtain ⟨before, chain, after, chains, held⟩ := Network.held_of_stuck stuck
      have distinct := perm.nodup_iff.mpr ordered.nodup
      rw [chains] at distinct
      have known (other) (mem : other ∈ before) : ∃ p, s.fleet.provider? other = some p :=
        Fleet.mem_connected.mp (perm.mem_iff.mp (chains ▸ List.mem_append_left _ mem))
      obtain ⟨first, -, apart⟩ := List.nodup_append.mp distinct
      obtain ⟨p, here, url, mem, w, silence⟩ :=
        held.silence first (fun early => apart _ early _ List.mem_cons_self rfl) known
      exact absurd ((heard chain p here url mem w).symm.trans silence) (by simp)
  · obtain ⟨deeds, played⟩ := s.used_play c pace moves
    unfold fleet
    rw [played]
    exact Network.ordered_play c.endpoints deeds ordered

/-- A service over two chains, each with one endpoint. -/
def twin (world : List Rpc.Reply) : Service (List Rpc.Reply) :=
  .fresh ⟨[⟨5, "five", [⟨['h'], none, .segments [], none, none⟩], 0, by decide⟩,
    ⟨7, "seven", [⟨['k'], none, .segments [], none, none⟩], 0, by decide⟩]⟩ world []

/-- What such a service is made for: endpoints that give one reply after another. -/
def twinSetup (order : Fleet.Order) : Setup (List Rpc.Reply) :=
  { endpoints := fun _ _ replies => (replies.headD .unreadable, replies.tail)
    capacity := 1
    plan := ⟨1, 1⟩
    policy := ⟨1, 1, 1⟩
    startedAt := ""
    idOf := fun _ => .repeated 16 0
    order := order }

/-- The second chain is asked although the first one is dead. -/
theorem dead_chain_hides_none :
    let s := twin [.unreadable, .result (.str "0x1")]
    s.fleet.Ordered ∧ Resource.ofPath? "/ready" = some .ready ∧
      Resource.ready.allows "GET" = true ∧
      ∃ bs a t, bs.map Sounding.chain = [5, 7] ∧ Readiness .running bs a ∧
        s.handle (twinSetup .rising) ⟨"GET", "/ready", none, ""⟩ = (.now a, t) ∧
        a.status = 503 ∧ t.queue.outside.metrics.connected.get? "7" = some 1 := by
  intro s
  have ordered : s.fleet.Ordered := by
    unfold Fleet.Ordered
    decide
  obtain ⟨⟨bs, m, gauges, a, t, chains, -, -, -, -, answer, -, handled, -⟩, -⟩ :=
    readiness_covers_every_chain (twinSetup .rising) (fun _ _ _ => false) s ordered
      ⟨"GET", "/ready", none, ""⟩ (by decide) (by decide)
  have status : (s.handle (twinSetup .rising) ⟨"GET", "/ready", none, ""⟩).1.casesOn Answer.status
      (fun _ => 0) (fun _ => 0) = 503 := by decide +kernel
  have gauge : Labelled.get? "7" (s.handle (twinSetup .rising)
      ⟨"GET", "/ready", none, ""⟩).2.queue.outside.metrics.connected = some 1 := by decide +kernel
  rw [handled] at status gauge
  exact ⟨ordered, by decide, by decide, bs, a, _, chains, answer, handled, status, gauge⟩

/-- The second chain can be reached, but the endpoint of the first never replies. The request
    is not answered, the second chain is not asked, and no gauge shows it. -/
theorem silent_chain_hides_next :
    let s := twin [.unreadable, .result (.str "0x1")]
    let left := s.await (fun url _ _ => url.scheme == ['h']) (twinSetup .rising)
    s.fleet.connected = [5, 7] ∧ left.1 = none ∧
      left.2.queue.outside.world.tries.map Provider.Try.chain = [5] ∧
      left.2.queue.outside.metrics.connected.get? "7" = none ∧
      (left.2.queue.outside.world.on 7
        (Provider.Session.healthy (twinSetup .rising).endpoints)).1.toOption = some true := by
  intro s left
  refine ⟨by decide, Option.isNone_iff_eq_none.mp ?_, ?_, ?_, ?_⟩
  all_goals decide +kernel

end Service

end Api

end TxRelay
