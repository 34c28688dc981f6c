import TxRelay.Proofs.Broadcast.Handover
import TxRelay.Proofs.Fleet.Walk
import TxRelay.Proofs.Settings.Chains

/-!
# Routing

Which provider a call goes to follows from the settings. The chains that are connected
are those that the settings use, in the order of their numbers, and each of them has the
provider of its own settings. What is asked of any other chain is answered with an error,
and no endpoint hears of it.

The table of the settings has no order that matters. It is gone through up to the first
chain that has no URL, so which one of several such chains is blamed is left open, and
that there is one is what makes the fleet fail.

Providers are put back after each call, turned to the endpoint that answered. Neither
this nor anything else that may be done with them changes where calls go: what
`Fleet.Serves` says of a fleet is kept.

## Main definitions

* `ChainSettings.Connectable`: A chain has a URL.
* `Provider.Made`: The provider that the settings of a chain ask for.
* `Fleet.Serves`: The fleet that settings ask for.
* `Network.perform`, `Network.play`: What may be done with a network.
* `Network.Routed`, `Network.Unrouted`: What is made of calls on a chain.

## Theorems

* `Fleet.ofSettings_spec`: Which settings have a fleet.
* `Fleet.Serves.play`: A fleet goes on to serve its settings.
* `Settings.routing_follows_settings`: Where calls go.
-/

namespace TxRelay

/-- One of the texts of a chain is a URL. -/
def ChainSettings.Connectable (c : ChainSettings) : Prop :=
  ∃ text ∈ c.urls, ∃ url, Url.parse? text = some url

/-- A provider is the one that the settings of a chain ask for. -/
structure Provider.Made (c : ChainSettings) (p : Provider) : Prop where
  /-- It is for the chain. -/
  chain : p.chain = c.chain
  /-- It has the name of the chain. -/
  name : p.name = c.name
  /-- Its endpoints are those of the chain that have URLs, in their order. -/
  urls : p.urls = c.urls.filterMap Url.parse?

-- However far it is turned.
theorem Provider.Made.turned {c : ChainSettings} {p : Provider} (made : p.Made c) (k : Nat) :
    (p.turned k).Made c :=
  ⟨made.chain, made.name, made.urls⟩

/-- Which chains have a provider. -/
theorem Provider.ofSettings_spec (c : ChainSettings) :
    (c.Connectable ∧ ∃ p, ofSettings c = .ok p ∧ p.Made c) ∨
      (¬c.Connectable ∧
        ofSettings c = .error (.chainConnection c.chain "No valid RPC providers")) := by
  have connectable : c.Connectable ↔ 0 < (c.urls.filterMap Url.parse?).length := by
    unfold ChainSettings.Connectable
    simp only [List.length_pos_iff_exists_mem, List.mem_filterMap]
    exact ⟨fun ⟨text, mem, url, parsed⟩ => ⟨url, text, mem, parsed⟩,
      fun ⟨url, text, mem, parsed⟩ => ⟨text, mem, url, parsed⟩⟩
  rw [connectable]
  by_cases some : 0 < (c.urls.filterMap Url.parse?).length
  · exact Or.inl ⟨some, _, dif_pos some, ⟨rfl, rfl, rfl⟩⟩
  · exact Or.inr ⟨some, dif_neg some⟩

namespace Fleet

variable {s : Settings} {f g : Fleet} {chains : List ChainSettings}

-- Chains are connected, or one of them has no URL.
theorem connect_spec (chains : List ChainSettings) (f : Fleet) :
    ((∀ c ∈ chains, c.Connectable) ∧ ∃ g, connect chains f = .ok g) ∨
      ∃ c ∈ chains, ¬c.Connectable ∧
        connect chains f = .error (.chainConnection c.chain "No valid RPC providers") := by
  induction chains generalizing f with
  | nil => exact Or.inl ⟨fun c mem => absurd mem List.not_mem_nil, f, rfl⟩
  | cons c rest ih =>
    rcases Provider.ofSettings_spec c with ⟨connectable, p, made, -⟩ | ⟨not, failed⟩
    · rw [connect, made]
      rcases ih (f.put p) with ⟨all, connected⟩ | ⟨d, mem, not, failed⟩
      · exact Or.inl ⟨List.forall_mem_cons.mpr ⟨connectable, all⟩, connected⟩
      · exact Or.inr ⟨d, List.mem_cons_of_mem c mem, not, failed⟩
    · refine Or.inr ⟨c, List.mem_cons_self, not, ?_⟩
      rw [connect, failed]

theorem ordered_nil : Ordered ⟨[]⟩ :=
  List.Pairwise.nil

-- Chains are put in order.
theorem Ordered.connect (ordered : f.Ordered) (connected : Fleet.connect chains f = .ok g) :
    g.Ordered := by
  induction chains generalizing f with
  | nil => exact Except.ok.inj connected ▸ ordered
  | cons c rest ih =>
    unfold Fleet.connect at connected
    split at connected
    · exact ih (ordered.put _) connected
    · exact absurd connected (by simp)

/-- The fleet that settings ask for. -/
structure Serves (s : Settings) (f : Fleet) : Prop where
  /-- Its chains rise. -/
  ordered : f.Ordered
  /-- Every chain that is used has its provider. -/
  provider : ∀ e ∈ s.enabledChains, ∃ p, f.provider? e.2.chain = some p ∧ p.Made e.2
  /-- There are no other chains. -/
  only : ∀ chain p, f.provider? chain = some p → ∃ e ∈ s.enabledChains, e.2.chain = chain

/-- Settings that are sound have a fleet if all chains that they use can be connected. -/
theorem ofSettings_spec (sound : s.Sound) :
    ((∀ e ∈ s.enabledChains, e.2.Connectable) ∧ ∃ f, ofSettings s = .ok f ∧ f.Serves s) ∨
      ∃ e ∈ s.enabledChains, ¬e.2.Connectable ∧
        ofSettings s = .error (.chainConnection e.2.chain "No valid RPC providers") := by
  rcases connect_spec (s.enabledChains.map (·.2)) ⟨[]⟩ with
    ⟨all, f, connected⟩ | ⟨c, mem, not, failed⟩
  · refine Or.inl ⟨fun e mem => all e.2 (List.mem_map_of_mem mem), f, ?_⟩
    have distinct : ((s.enabledChains.map (·.2)).map ChainSettings.chain).Nodup := by
      rw [List.map_map]
      exact sound.distinct
    have provider (e) (mem : e ∈ s.enabledChains) :
        ∃ p, f.provider? e.2.chain = some p ∧ p.Made e.2 := by
      rcases provider?_connect connected distinct (List.mem_map_of_mem mem) with ⟨p, made, known⟩
      rcases Provider.ofSettings_spec e.2 with ⟨-, q, same, its⟩ | ⟨-, failed⟩
      · rw [made] at same
        exact ⟨p, known, Except.ok.inj same ▸ its⟩
      · rw [made] at failed
        exact absurd failed (by simp)
    refine ⟨?_, ordered_nil.connect connected, provider, fun chain p known => ?_⟩
    · -- A chain is used, so its provider is there.
      obtain ⟨e, mem⟩ := List.exists_mem_of_ne_nil _ sound.used
      obtain ⟨p, known, -⟩ := provider e mem
      have some : f.providers.isEmpty = false := by
        rw [List.isEmpty_eq_false_iff]
        exact List.ne_nil_of_mem (List.mem_of_find?_eq_some known)
      rw [ofSettings, connected]
      dsimp only
      rw [some]
      rfl
    · by_contra none
      push Not at none
      have absent : chain ∉ (s.enabledChains.map (·.2)).map ChainSettings.chain := by
        simpa using fun key c mem => none (key, c) mem
      rw [provider?_connect_other connected absent] at known
      exact absurd known (by simp [provider?])
  · obtain ⟨e, used, rfl⟩ := List.mem_map.mp mem
    refine Or.inr ⟨e, used, not, ?_⟩
    rw [ofSettings, failed]

end Fleet

namespace Provider.Session

variable {σ : Type}

/-- What a call answers that looks a transaction up, by how it ends. -/
def found (hash : Hash) (p : Provider) :
    Ending (Option Rpc.ChainTransaction) → Except Failure Rpc.ChainTransaction
  | .value (some t) => .ok t
  | .value none => .error (.transactionNotFound hash p.chain)
  | .refused r => .error (p.refusal r)
  | .exhausted => .error (p.exhausted "get transaction")

theorem transaction_eq (endpoints : Endpoints σ) (hash : Hash) (s : Session σ) :
    s.transaction endpoints hash =
      (found hash s.provider (s.walk endpoints (.transaction hash) Rpc.transaction?).1,
        (s.walk endpoints (.transaction hash) Rpc.transaction?).2) := by
  unfold transaction
  dsimp only
  rcases (s.walk endpoints (.transaction hash) Rpc.transaction?).1 with (_ | _) | _ | _ <;> rfl

end Provider.Session

namespace Network

open Provider

variable {σ : Type} (endpoints : Endpoints σ) {s : Settings} {n : Network σ} {c : ChainSettings}
  {p : Provider} {chain : ChainId}

/-- Does something with the provider of a chain, if it is connected. -/
def perform (n : Network σ) (d : ChainId × Deed σ) : Network σ :=
  (n.on d.1 fun s => ((), s.perform endpoints d.2)).2

/-- Does several things in order. -/
def play (deeds : List (ChainId × Deed σ)) (n : Network σ) : Network σ :=
  deeds.foldl (perform endpoints) n

theorem play_append (first second : List (ChainId × Deed σ)) (n : Network σ) :
    n.play endpoints (first ++ second) = (n.play endpoints first).play endpoints second :=
  List.foldl_append

-- Whatever is done, the fleet stays in order.
theorem ordered_play (deeds : List (ChainId × Deed σ)) (ordered : n.fleet.Ordered) :
    (n.play endpoints deeds).fleet.Ordered := by
  induction deeds generalizing n with
  | nil => exact ordered
  | cons d deeds ih => exact ih (ordered_on _ ordered)

/-- What is made of calls on a chain of settings that has this provider. -/
structure Routed (c : ChainSettings) (n : Network σ) (p : Provider) : Prop where
  /-- The provider of the chain. -/
  known : n.fleet.provider? c.chain = some p
  /-- It is the one that the settings ask for. -/
  made : p.Made c
  /-- Requests to the chain go to the URLs of the settings, in their order. -/
  url : ∀ t : Try, t.chain = c.chain → n.url? t = (c.urls.filterMap Url.parse?)[t.target]?
  /-- Whatever is called, it is called. -/
  on : ∀ {α : Type} (call : Session σ → α × Session σ),
    (n.on c.chain call).1 = .ok (call ⟨p, n.world, n.tries⟩).1
  /-- A transaction is looked up by a walk of the provider. -/
  transaction : ∀ hash, ∃ xs e m,
    Walked endpoints c.chain (.transaction hash) Rpc.transaction? n p xs e m ∧
      n.transaction endpoints c.chain hash = (Session.found hash p e, m)
  /-- So is a transaction handed over. -/
  sendRaw : ∀ raw, ∃ xs e m,
    Walked endpoints c.chain (.sendRaw raw) (Rpc.fixed? 32) n p xs e m ∧
      n.sendRaw endpoints c.chain raw = (Session.handed p e, m)

/-- What is made of calls on a chain that is not connected. Nothing is asked of any
    endpoint, and nothing changes. -/
structure Unrouted (chain : ChainId) (n : Network σ) : Prop where
  /-- It has no provider. -/
  unknown : n.fleet.provider? chain = none
  /-- Whatever is called, it is not found. -/
  on : ∀ {α : Type} (call : Session σ → α × Session σ),
    n.on chain call = (.error (.chainNotFound chain), n)
  /-- No transaction is looked up. -/
  transaction : ∀ hash,
    n.transaction endpoints chain hash = (.error (.chainNotFound chain), n)
  /-- None is handed over. -/
  sendRaw : ∀ raw, n.sendRaw endpoints chain raw = (.error (.chainNotFound chain), n)

theorem routed (known : n.fleet.provider? c.chain = some p) (made : p.Made c) :
    Routed endpoints c n p := by
  refine ⟨known, made, fun t here => ?_, fun call => ?_, fun hash => ?_, fun raw => ?_⟩
  · rw [Network.url?, here, known, ← made.urls]
    rfl
  · rw [Network.on, known]
  · obtain ⟨e, m, walked, on⟩ := on_walked (Session.transaction_eq endpoints hash) known
    refine ⟨_, e, m, walked, ?_⟩
    rw [Network.transaction, on]
  · obtain ⟨e, m, walked, on⟩ := on_walked (Session.sendRaw_eq endpoints raw) known
    refine ⟨_, e, m, walked, ?_⟩
    rw [Network.sendRaw, on]

theorem unrouted (unknown : n.fleet.provider? chain = none) : Unrouted endpoints chain n := by
  have on {α : Type} (call : Session σ → α × Session σ) :
      n.on chain call = (.error (.chainNotFound chain), n) := by
    rw [Network.on, unknown]
  refine ⟨unknown, on, fun hash => ?_, fun raw => ?_⟩
  · rw [Network.transaction, on]
  · rw [Network.sendRaw, on]

end Network

namespace Fleet.Serves

variable {σ : Type} {endpoints : Provider.Endpoints σ} {s : Settings} {n : Network σ}

-- Providers stay where they are, and are turned.
theorem perform (serves : n.fleet.Serves s) (d : ChainId × Provider.Deed σ) :
    (n.perform endpoints d).fleet.Serves s := by
  have turned := Network.provider?_on d.1 (fun s => ((), s.perform endpoints d.2))
    (fun s => Provider.Session.perform_turned endpoints s d.2) n
  refine ⟨Network.ordered_on _ serves.ordered, fun e mem => ?_, fun chain p known => ?_⟩
  · obtain ⟨p, known, made⟩ := serves.provider e mem
    obtain ⟨k, same⟩ := turned e.2.chain
    refine ⟨p.turned k, ?_, made.turned k⟩
    rw [Network.perform, same, known]
    rfl
  · obtain ⟨k, same⟩ := turned chain
    rw [Network.perform, same] at known
    obtain ⟨q, before, -⟩ := Option.map_eq_some_iff.mp known
    exact serves.only chain q before

/-- A fleet goes on to serve its settings. -/
theorem play (serves : n.fleet.Serves s) (deeds : List (ChainId × Provider.Deed σ)) :
    (n.play endpoints deeds).fleet.Serves s := by
  induction deeds generalizing n with
  | nil => exact serves
  | cons d deeds ih => exact ih (serves.perform d)

end Fleet.Serves

namespace Settings

open Provider

/-- Where calls go. Settings that are accepted have a fleet if and only if every chain
    that they use has a URL, and a chain that has none is blamed otherwise. The chains of
    the fleet are those that are used, in order, and whatever was done with the network
    before, calls on one of them go to the provider that has its name and its URLs. A
    call on any other chain fails, and nothing is asked of any endpoint. -/
theorem routing_follows_settings {s : Settings} (accepted : s.validate = .ok ()) :
    ((∃ f, Fleet.ofSettings s = .ok f) ↔ ∀ e ∈ s.enabledChains, e.2.Connectable) ∧
    (∀ failure, Fleet.ofSettings s = .error failure →
      ∃ e ∈ s.enabledChains, ¬e.2.Connectable ∧
        failure = .chainConnection e.2.chain "No valid RPC providers") ∧
    ∀ f, Fleet.ofSettings s = .ok f →
      ∀ (σ : Type) (endpoints : Endpoints σ) (world : σ) (deeds : List (ChainId × Deed σ)),
        let n := Network.play endpoints deeds ⟨f, world, []⟩
        n.fleet.connected.Pairwise (· < ·) ∧
        (∀ chain, chain ∈ n.fleet.connected ↔ ∃ e ∈ s.enabledChains, e.2.chain = chain) ∧
        (∀ e ∈ s.enabledChains, ∃ p, Network.Routed endpoints e.2 n p) ∧
        ∀ chain, (∀ e ∈ s.enabledChains, e.2.chain ≠ chain) →
          Network.Unrouted endpoints chain n := by
  rcases Fleet.ofSettings_spec ((validate_eq_ok s).mp accepted) with
    ⟨all, f, made, serves⟩ | ⟨e, mem, not, failed⟩
  · refine ⟨⟨fun _ => all, fun _ => ⟨f, made⟩⟩, fun failure failed => ?_,
      fun g again σ endpoints world deeds => ?_⟩
    · exact absurd (made.symm.trans failed) (by simp)
    · intro n
      obtain rfl : f = g := Except.ok.inj (made.symm.trans again)
      have serves : n.fleet.Serves s := Fleet.Serves.play serves deeds
      refine ⟨serves.ordered, fun chain => ?_, fun e mem => ?_, fun chain unused => ?_⟩
      · rw [Fleet.mem_connected]
        constructor
        · exact fun ⟨p, known⟩ => serves.only chain p known
        · rintro ⟨e, mem, rfl⟩
          exact (serves.provider e mem).imp fun p its => its.1
      · obtain ⟨p, known, its⟩ := serves.provider e mem
        exact ⟨p, Network.routed endpoints known its⟩
      · refine Network.unrouted endpoints (Option.eq_none_iff_forall_ne_some.mpr fun p known => ?_)
        obtain ⟨e, mem, same⟩ := serves.only chain p known
        exact unused e mem same
  · refine ⟨⟨fun ⟨f, made⟩ => ?_, fun all => absurd (all e mem) not⟩, fun failure again => ?_,
      fun f made => ?_⟩
    · exact absurd (made.symm.trans failed) (by simp)
    · exact ⟨e, mem, not, Except.error.inj (again.symm.trans failed)⟩
    · exact absurd (made.symm.trans failed) (by simp)

/-- Settings that use two chains, one of which has a text that is no URL, and that leave
    out a third. -/
def assorted : Settings :=
  { queue := .default, sender := .default, api := .default, metrics := .default, jsonLog := false
    chains := [("a", ⟨7, "seven", ["?", "http://[::1]"], true⟩),
      ("b", ⟨9, "nine", ["http://[::2]"], false⟩),
      ("c", ⟨5, "five", ["http://[::3]"], true⟩)] }

/-- They have a fleet of two chains, in order. Calls on the third fail. -/
theorem assorted_routed :
    assorted.validate = .ok () ∧ ∃ f, Fleet.ofSettings assorted = .ok f ∧
      f.connected = [5, 7] ∧
      ∀ (σ : Type) (endpoints : Endpoints σ) (world : σ) (deeds : List (ChainId × Deed σ)),
        Network.Unrouted endpoints 9 (Network.play endpoints deeds ⟨f, world, []⟩) := by
  have accepted : assorted.validate = .ok () := by decide +kernel
  have parsed : ∀ e ∈ assorted.enabledChains, ∃ text ∈ e.2.urls,
      (Url.parse? text).isSome = true := by decide +kernel
  obtain ⟨exists_iff, -, routes⟩ := routing_follows_settings accepted
  obtain ⟨f, made⟩ := exists_iff.mpr fun e used =>
    (parsed e used).imp fun text found => found.imp_right Option.isSome_iff_exists.mp
  refine ⟨accepted, f, made, ?_, fun σ endpoints world deeds => ?_⟩
  · have chains : (Fleet.ofSettings assorted).map Fleet.connected = .ok [5, 7] := by
      decide +kernel
    rw [made] at chains
    exact Except.ok.inj chains
  · have others : ∀ e ∈ assorted.enabledChains, e.2.chain ≠ 9 := by decide
    exact (routes f made σ endpoints world deeds).2.2.2 9 others

end Settings

end TxRelay
