import Mathlib.Data.List.Nodup
import TxRelay.Fleet
import TxRelay.Proofs.Settings.Rules

/-!
# The Number of a Chain

The rules give every chain that is used a number of its own, and the fleet has one
provider for each. Chains that are not used are not looked at by the rules, so they
may share a number with one that is used. Asking the settings for a chain by its
number looks at all chains, in the order of the table. Which of those that share a
number is found depends on that order.

## Main definitions

* `Settings.twins`: Settings with two chains of one number, one of which is not used.

## Theorems

* `Provider.chain_of_ofSettings`: A provider has the number of its chain.
* `Fleet.provider?_connect`: Every chain that is connected has its own provider.
* `Settings.chain_by_number`: What is found under the number of a chain that is used.
* `Settings.unused_twin_found`: It may be a chain that is not used.
-/

namespace TxRelay

-- A provider has the number of its chain.
theorem Provider.chain_of_ofSettings {c : ChainSettings} {p : Provider}
    (made : ofSettings c = .ok p) : p.chain = c.chain := by
  unfold ofSettings at made
  dsimp only at made
  split at made
  · rw [← Except.ok.inj made]
  · exact absurd made (by simp)

namespace Fleet

-- Chains with other numbers keep their providers.
theorem provider?_connect_other {chains : List ChainSettings} {f g : Fleet} {n : ChainId}
    (connected : connect chains f = .ok g) (other : n ∉ chains.map ChainSettings.chain) :
    g.provider? n = f.provider? n := by
  induction chains generalizing f with
  | nil => rw [Except.ok.inj connected]
  | cons c rest ih =>
    rw [List.map_cons, List.mem_cons, not_or] at other
    cases made : Provider.ofSettings c with
    | error e =>
      simp only [connect, made] at connected
      exact absurd connected (by simp)
    | ok p =>
      simp only [connect, made] at connected
      rw [ih connected other.2]
      exact provider?_put_other (Provider.chain_of_ofSettings made ▸ other.1) f

/-- Every chain that is connected has its own provider. -/
theorem provider?_connect {chains : List ChainSettings} {f g : Fleet}
    (connected : connect chains f = .ok g)
    (distinct : (chains.map ChainSettings.chain).Nodup) {c : ChainSettings} (mem : c ∈ chains) :
    ∃ p, Provider.ofSettings c = .ok p ∧ g.provider? c.chain = some p := by
  induction chains generalizing f with
  | nil => exact absurd mem List.not_mem_nil
  | cons d rest ih =>
    rw [List.map_cons, List.nodup_cons] at distinct
    cases made : Provider.ofSettings d with
    | error e =>
      simp only [connect, made] at connected
      exact absurd connected (by simp)
    | ok p =>
      simp only [connect, made] at connected
      rcases List.mem_cons.mp mem with rfl | later
      · refine ⟨p, made, ?_⟩
        rw [provider?_connect_other connected distinct.1, ← Provider.chain_of_ofSettings made]
        exact provider?_put_self p f
      · exact ih connected distinct.2 later

-- The fleet of settings is made by connecting the chains that they use.
theorem connect_of_ofSettings {s : Settings} {f : Fleet} (made : ofSettings s = .ok f) :
    connect (s.enabledChains.map (·.2)) ⟨[]⟩ = .ok f := by
  unfold ofSettings at made
  split at made
  · exact absurd made (by simp)
  · rename_i g connected
    split at made
    · exact absurd made (by simp)
    · rw [connected, Except.ok.inj made]

end Fleet

namespace Settings

variable {s t : Settings} {c : ChainSettings} {key : String}

-- Who is used is in the table.
theorem mem_enabledChains {e : String × ChainSettings} :
    e ∈ s.enabledChains ↔ e ∈ s.chains ∧ e.2.enabled = true :=
  List.mem_filter

-- A chain that is found has the number that was asked for.
theorem chainById?_eq_some {n : ChainId} {d : ChainSettings} (found : s.chainById? n = some d) :
    d.chain = n ∧ ∃ key, (key, d) ∈ s.chains := by
  unfold chainById? at found
  rcases Option.map_eq_some_iff.mp found with ⟨e, first, rfl⟩
  have number := List.find?_some first
  rw [beq_iff_eq] at number
  exact ⟨number, e.1, List.mem_of_find?_eq_some first⟩

-- Something is found under the number of a chain that is there.
theorem chainById?_isSome (mem : (key, c) ∈ s.chains) : ∃ d, s.chainById? c.chain = some d := by
  refine Option.isSome_iff_exists.mp ?_
  rw [chainById?, Option.isSome_map, List.find?_isSome]
  exact ⟨(key, c), mem, beq_self_eq_true c.chain⟩

-- No two chains that are used have one number.
theorem Sound.eq_of_chain (sound : Sound s) {other : String} {d : ChainSettings}
    (here : (key, c) ∈ s.enabledChains) (there : (other, d) ∈ s.enabledChains)
    (same : d.chain = c.chain) : d = c :=
  congrArg Prod.snd (List.inj_on_of_nodup_map sound.distinct there here same)

-- Chains that are used and have numbers of their own have their providers.
theorem provider_of_distinct (distinct : (s.enabledChains.map fun e => e.2.chain).Nodup)
    (mem : (key, c) ∈ s.enabledChains) {f : Fleet} (made : Fleet.ofSettings s = .ok f) :
    ∃ p, Provider.ofSettings c = .ok p ∧ f.provider? c.chain = some p := by
  have numbers : ((s.enabledChains.map (·.2)).map ChainSettings.chain).Nodup := by
    rw [List.map_map]
    exact distinct
  exact Fleet.provider?_connect (Fleet.connect_of_ofSettings made) numbers
    (List.mem_map.mpr ⟨_, mem, rfl⟩)

/-- What is found under the number of a chain that is used, in settings that were
    accepted and in whatever order the table is looked through. It is that chain,
    or one that is not used. It is that chain in every order if and only if none of
    the others has its number. The fleet connects that chain in any case. -/
theorem chain_by_number {environment : String → Option String} {source : String}
    (accepted : ofText environment source = .ok s) (mem : (key, c) ∈ s.enabledChains) :
    (∀ t : Settings, t.chains.Perm s.chains →
      (∃ d, t.chainById? c.chain = some d ∧ (d = c ∨ d.enabled = false ∧ d.chain = c.chain)) ∧
      ∀ f, Fleet.ofSettings t = .ok f →
        ∃ p, Provider.ofSettings c = .ok p ∧ f.provider? c.chain = some p) ∧
    ((∀ t : Settings, t.chains.Perm s.chains → t.chainById? c.chain = some c) ↔
      ∀ e ∈ s.chains, e.2.chain = c.chain → e.2.enabled = true) := by
  have sound := ((ofText_eq_ok environment source s).mp accepted).2
  have there := (mem_enabledChains.mp mem).1
  -- What is found in some order.
  have finds (t : Settings) (order : t.chains.Perm s.chains) :
      ∃ d, t.chainById? c.chain = some d ∧ d.chain = c.chain ∧
        (∃ other, (other, d) ∈ s.chains) ∧ (d = c ∨ d.enabled = false) := by
    rcases chainById?_isSome (order.mem_iff.mpr there) with ⟨d, found⟩
    rcases chainById?_eq_some found with ⟨number, other, listed⟩
    refine ⟨d, found, number, ⟨other, order.mem_iff.mp listed⟩, ?_⟩
    cases used : d.enabled with
    | false => exact Or.inr rfl
    | true =>
      have inUse := mem_enabledChains.mpr ⟨order.mem_iff.mp listed, used⟩
      exact Or.inl (sound.eq_of_chain mem inUse number)
  refine ⟨fun t order => ⟨?_, fun f made => ?_⟩, fun always e listed number => ?_,
    fun apart t order => ?_⟩
  · rcases finds t order with ⟨d, found, number, -, same | unused⟩
    · exact ⟨d, found, Or.inl same⟩
    · exact ⟨d, found, Or.inr ⟨unused, number⟩⟩
  · have used : t.enabledChains.Perm s.enabledChains := order.filter _
    exact provider_of_distinct ((used.map _).nodup_iff.mpr sound.distinct)
      (used.mem_iff.mpr mem) made
  · -- A chain that is looked at first is found.
    have order : (e :: s.chains.erase e).Perm s.chains := (List.perm_cons_erase listed).symm
    have found := always { s with chains := e :: s.chains.erase e } order
    have first : (e.2.chain == c.chain) = true := beq_iff_eq.mpr number
    rw [chainById?, List.find?_cons, first] at found
    rw [show e.2 = c from Option.some.inj found]
    exact (mem_enabledChains.mp mem).2
  · rcases finds t order with ⟨d, found, number, ⟨other, listed⟩, same | unused⟩
    · rw [found, same]
    · have used : d.enabled = true := apart (other, d) listed number
      rw [unused] at used
      exact absurd used Bool.false_ne_true

/-- A chain that is used. -/
def twin : ChainSettings := ⟨5, "on", ["http://b"], true⟩

/-- Settings with another chain of its number before it, one that is not used. -/
def twins : Settings :=
  { queue := .default, sender := .default, api := .default, metrics := .default, jsonLog := false
    chains := [("a", ⟨5, "off", [], false⟩), ("b", twin)] }

/-- Their text. -/
def twinText : String :=
  "[chains.a]\nchain_id = 5\nname = \"off\"\nrpc_urls = []\nenabled = false\n" ++
    "[chains.b]\nchain_id = 5\nname = \"on\"\nrpc_urls = [\"http://b\"]\n"

theorem twins_accepted : ofText (fun _ => none) twinText = .ok twins := by decide +kernel

theorem twin_used : ("b", twin) ∈ twins.enabledChains := by decide

-- There is an order in which the chain that is used is not found.
theorem twins_by_number :
    ofText (fun _ => none) twinText = .ok twins ∧ ("b", twin) ∈ twins.enabledChains ∧
      ¬∀ t : Settings, t.chains.Perm twins.chains → t.chainById? twin.chain = some twin := by
  have known := chain_by_number twins_accepted twin_used
  refine ⟨twins_accepted, twin_used, fun always => ?_⟩
  exact absurd (known.2.mp always ("a", ⟨5, "off", [], false⟩) (by decide) rfl) (by decide)

/-- What is found under the number of a chain that is used need not be that chain. -/
theorem unused_twin_found :
    ¬∀ (environment : String → Option String) (source : String) (s : Settings),
      ofText environment source = .ok s → ∀ key c, (key, c) ∈ s.enabledChains →
        s.chainById? c.chain = some c := by
  intro always
  have found := always (fun _ => none) twinText twins twins_accepted "b" twin twin_used
  exact absurd found (by decide)

end Settings

end TxRelay
