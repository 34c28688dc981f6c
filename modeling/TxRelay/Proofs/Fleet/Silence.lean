import TxRelay.Proofs.Fleet.Probe
import TxRelay.Silence

/-!
# Probes that Never End

A call that waits for ever was handed on by endpoints that were of no use, and sent a
request to which there is no reply. `Provider.Held` says so try by try, in the way in
which `Provider.Talk` describes a call that ends. A probe that waits for ever does so for
one chain: it went through those before as any probe does, and never comes to those after.

## Main definitions

* `Provider.Held`: A call that waits for ever.
* `Network.Held`: A probe that waits for ever.

## Theorems

* `Provider.Held.turned`, `Provider.Held.silence`: Which endpoint is waited for.
* `Provider.Session.held_of_stuckFrom`, `stuckFrom_of_held`: Which calls wait for ever.
* `Network.held_of_stuck`, `Network.stuck_of_held`: Which probes wait for ever.
* `Network.Held.silence`: None does if the endpoints reply.
-/

namespace TxRelay

namespace Provider

variable {σ α : Type} {silent : Silence σ} {endpoints : Endpoints σ} {request : Rpc.Request}
  {read : Json.Value → Option α}

/-- A call of a provider with so many tries behind the next, which waits for ever: the
    exchanges before, with the endpoints as they are at first, the provider as it is left,
    whose active endpoint is waited for, and the endpoints as they are left. -/
inductive Held (silent : Silence σ) (endpoints : Endpoints σ) (request : Rpc.Request)
    (read : Json.Value → Option α) : Provider → Nat → List Exchange → σ → Provider → σ → Prop where
  /-- The endpoint never replies. -/
  | silent {p : Provider} {left : Nat} {w : σ} (silence : silent p.url request w = true) :
      Held silent endpoints request read p left [] w p (endpoints p.url request w).2
  /-- The endpoint replies, is of no use, and the call is handed on. -/
  | next {p t : Provider} {left : Nat} {xs : List Exchange} {w v : σ}
      (heard : silent p.url request w = false)
      (failed : (p.exchange request (endpoints p.url request w).1).Failed read)
      (rest : Held silent endpoints request read p.failover left xs
        (endpoints p.url request w).2 t v) :
      Held silent endpoints request read p (left + 1)
        (p.exchange request (endpoints p.url request w).1 :: xs) w t v

namespace Held

variable {p t : Provider} {left : Nat} {xs : List Exchange} {w v : σ}

/-- The endpoint that is waited for comes after all that were of no use, and is one of
    those that the call has tries for. -/
theorem turned (held : Held silent endpoints request read p left xs w t v) :
    t = p.turned xs.length ∧ xs.length ≤ left := by
  induction held with
  | silent silence => exact ⟨(turned_zero _).symm, Nat.zero_le _⟩
  | next heard failed rest ih =>
    refine ⟨?_, Nat.succ_le_succ ih.2⟩
    rw [ih.1, failover_eq, turned_turned, Nat.add_comm, List.length_cons]

/-- Some endpoint of the provider never replies. -/
theorem silence (held : Held silent endpoints request read p left xs w t v) :
    ∃ url ∈ p.urls, ∃ u, silent url request u = true := by
  induction held with
  | @silent p _ w silence => exact ⟨p.url, List.get_mem _ _, w, silence⟩
  | next heard failed rest ih => exact ih

end Held

namespace Session

variable {s t : Session σ} {left : Nat}

-- An endpoint that never replies is waited for.
theorem stuckFrom_silent (silence : silent s.provider.url request s.world = true) :
    s.stuckFrom silent endpoints request read left = some (s.ask endpoints request).2 := by
  rw [stuckFrom.eq_def]
  exact if_pos silence

-- A call that is not handed on has an end.
theorem stuckFrom_last (heard : silent s.provider.url request s.world = false)
    (last : left = 0 ∨ Verdict.ofReply read (s.ask endpoints request).1 ≠ .failed) :
    s.stuckFrom silent endpoints request read left = none := by
  rw [stuckFrom.eq_def]
  dsimp only
  rw [if_neg (Bool.eq_false_iff.mp heard)]
  obtain rfl | answered := last
  · cases Verdict.ofReply read (s.ask endpoints request).1 <;> rfl
  · split
    · exact absurd ‹_› answered
    · rfl

theorem stuckFrom_next (heard : silent s.provider.url request s.world = false)
    (failed : Verdict.ofReply read (s.ask endpoints request).1 = .failed) :
    s.stuckFrom silent endpoints request read (left + 1) =
      stuckFrom silent endpoints request read left
        { (s.ask endpoints request).2 with provider := s.provider.failover } := by
  rw [stuckFrom.eq_def]
  dsimp only
  rw [if_neg (Bool.eq_false_iff.mp heard), failed]

-- By induction on the tries that are left, along with the call.
theorem held_of_stuckFrom (stuck : s.stuckFrom silent endpoints request read left = some t) :
    ∃ xs, Held silent endpoints request read s.provider left xs s.world t.provider t.world ∧
      t.tries = ⟨s.provider.chain, t.provider.active, request⟩ ::
        (xs.map Exchange.made).reverse ++ s.tries := by
  induction left generalizing s with
  | zero =>
    cases silence : silent s.provider.url request s.world with
    | true =>
      rw [stuckFrom_silent silence] at stuck
      obtain rfl := Option.some.inj stuck
      exact ⟨[], .silent silence, rfl⟩
    | false => exact absurd ((stuckFrom_last silence (Or.inl rfl)).symm.trans stuck) (by simp)
  | succ left ih =>
    cases silence : silent s.provider.url request s.world with
    | true =>
      rw [stuckFrom_silent silence] at stuck
      obtain rfl := Option.some.inj stuck
      exact ⟨[], .silent silence, rfl⟩
    | false =>
      by_cases failed : Verdict.ofReply read (s.ask endpoints request).1 = .failed
      · rw [stuckFrom_next silence failed] at stuck
        obtain ⟨xs, held, tries⟩ := ih stuck
        refine ⟨_, .next silence failed held, ?_⟩
        rw [tries, List.map_cons, List.reverse_cons, List.cons_append, List.cons_append,
          List.append_assoc]
        rfl
      · exact absurd ((stuckFrom_last silence (Or.inr failed)).symm.trans stuck) (by simp)

-- By induction on the call.
theorem stuckFrom_of_held {p t : Provider} {xs : List Exchange} {w v : σ}
    (held : Held silent endpoints request read p left xs w t v) (tries : List Try) :
    (stuckFrom silent endpoints request read left ⟨p, w, tries⟩).isSome = true := by
  induction held generalizing tries with
  | @silent p left w silence =>
    exact congrArg Option.isSome (stuckFrom_silent (s := ⟨p, w, tries⟩) silence)
  | @next p t left xs w v heard failed rest ih =>
    have next : stuckFrom silent endpoints request read (left + 1) ⟨p, w, tries⟩ = _ :=
      stuckFrom_next heard failed
    exact (congrArg Option.isSome next).trans (ih _)

end Session

end Provider

namespace Network

open Provider

variable {σ : Type} {silent : Silence σ} {endpoints : Endpoints σ} {chain : ChainId}
  {chains : List ChainId} {s t u : Surroundings (Network σ)}

/-- A probe that waits for ever for a chain, once those before were asked as ever. Nothing
    else is done, so the chains behind are not asked. -/
def Held (silent : Silence σ) (endpoints : Endpoints σ) (s : Surroundings (Network σ))
    (before : List ChainId) (chain : ChainId) (t : Surroundings (Network σ)) : Prop :=
  ∃ u p xs q v, (probeAll endpoints before s).2 = u ∧ u.world.fleet.provider? chain = some p ∧
    Provider.Held silent endpoints .blockNumber (Rpc.quantity? 8) p (p.urls.length - 1) xs
      u.world.world q v ∧
    t = { u with world := ⟨u.world.fleet.put q, v,
      ⟨chain, q.active, .blockNumber⟩ :: (xs.map Exchange.made).reverse ++ u.world.tries⟩ }

-- A call on a chain waits for ever.
theorem held_of_stuckOn {m : Network σ}
    (stuck : s.world.stuckOn silent endpoints chain .blockNumber (Rpc.quantity? 8) = some m) :
    Held silent endpoints s [] chain { s with world := m } := by
  unfold stuckOn at stuck
  cases known : s.world.fleet.provider? chain with
  | none =>
    rw [known] at stuck
    exact absurd stuck (by simp)
  | some p =>
    rw [known] at stuck
    dsimp only at stuck
    cases call : Session.stuck silent endpoints .blockNumber (Rpc.quantity? 8)
        ⟨p, s.world.world, s.world.tries⟩ with
    | none =>
      rw [call] at stuck
      exact absurd stuck (by simp)
    | some u =>
      rw [call] at stuck
      obtain rfl := Option.some.inj stuck
      obtain ⟨xs, held, tries⟩ := Session.held_of_stuckFrom call
      refine ⟨s, p, xs, u.provider, u.world, rfl, known, held, ?_⟩
      rw [tries, Fleet.chain_of_provider? known]

theorem stuckOn_of_held (held : Held silent endpoints s [] chain t) :
    (s.world.stuckOn silent endpoints chain .blockNumber (Rpc.quantity? 8)).isSome = true := by
  obtain ⟨u, p, xs, q, v, rfl, known, held, -⟩ := held
  have stuck := Session.stuckFrom_of_held held s.world.tries
  obtain ⟨w, call⟩ := Option.isSome_iff_exists.mp stuck
  unfold stuckOn
  rw [show s.world.fleet.provider? chain = some p from known]
  dsimp only
  rw [show Session.stuck silent endpoints .blockNumber (Rpc.quantity? 8)
    ⟨p, s.world.world, s.world.tries⟩ = some w from call]
  rfl

/-- A probe that waits for ever does so for one of the chains. -/
theorem held_of_stuck (stuck : Network.stuck silent endpoints chains s = some t) :
    ∃ before chain after, chains = before ++ chain :: after ∧
      Held silent endpoints s before chain t := by
  induction chains generalizing s with
  | nil => exact absurd stuck (by simp [Network.stuck])
  | cons first rest ih =>
    rw [Network.stuck] at stuck
    cases call : s.world.stuckOn silent endpoints first .blockNumber (Rpc.quantity? 8) with
    | some m =>
      rw [call] at stuck
      obtain rfl := Option.some.inj stuck
      exact ⟨[], first, rest, rfl, held_of_stuckOn call⟩
    | none =>
      rw [call] at stuck
      obtain ⟨before, chain, after, rfl, held⟩ := ih stuck
      exact ⟨first :: before, chain, after, rfl, held⟩

/-- A probe that comes to a call that waits for ever does so, at the latest there. -/
theorem stuck_of_held {before : List ChainId} (held : Held silent endpoints s before chain t)
    (after : List ChainId) :
    (Network.stuck silent endpoints (before ++ chain :: after) s).isSome = true := by
  induction before generalizing s with
  | nil =>
    obtain ⟨m, call⟩ := Option.isSome_iff_exists.mp (stuckOn_of_held held)
    rw [List.nil_append, Network.stuck, call]
    rfl
  | cons first before ih =>
    rw [List.cons_append, Network.stuck]
    cases s.world.stuckOn silent endpoints first .blockNumber (Rpc.quantity? 8) with
    | some m => rfl
    | none => exact ih held

-- Some endpoint of the chain never replies.
theorem Held.silence {before : List ChainId} (held : Held silent endpoints s before chain t)
    (distinct : before.Nodup) (apart : chain ∉ before)
    (known : ∀ other ∈ before, ∃ p, s.world.fleet.provider? other = some p) :
    ∃ p, s.world.fleet.provider? chain = some p ∧
      ∃ url ∈ p.urls, ∃ w, silent url .blockNumber w = true := by
  obtain ⟨u, p, xs, q, v, rfl, here, held, -⟩ := held
  obtain ⟨bs, m, gauges, rfl, sounded, -, probed⟩ :=
    @probeAll_spec _ endpoints _ distinct s known
  rw [probed] at here
  exact ⟨p, (sounded.others chain apart).symm.trans here, held.silence⟩

end Network

end TxRelay
