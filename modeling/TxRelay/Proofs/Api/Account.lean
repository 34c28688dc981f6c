import Mathlib.Data.List.Forall2
import TxRelay.Proofs.Api.Visit

/-!
# The Visits of an Account

The visits about one account on one chain, in the order in which they were served,
tell the story of its nonce. Next to every visit stands the call that it was for the
table, and these calls follow one another (`Kept`). What is known of such calls is
therefore true of what callers were told: between two visits at which the account was
forgotten, nonces count up from the one count that the chain named.

The story also says whether the account is known. It is if and only if a nonce was
handed out after it was forgotten for the last time.

## Main definitions

* `Api.Visit.Upward`: Nonces count up from the count that the chain named.
* `Api.Visit.AllocatedSince`: A nonce was handed out since the account was forgotten.
* `Api.Kept`: Visits do to an account what calls do.

## Theorems

* `Api.forall₂_splitOnP`: Lists that agree are split alike.
* `Api.Kept.upward`: Nonces count up in every piece.
* `Api.Kept.snoc`: The next visit is the next call.
-/

namespace TxRelay

namespace Api

open Nonce (Ended Follows Next cut_snoc)

namespace Visit

/-- The nonces that visits were answered with, in order. -/
def nonces (vs : List Visit) : List Nat :=
  vs.filterMap nonce?

/-- The counts that the chain named for them, in order. -/
def seeds (vs : List Visit) : List Nat :=
  vs.filterMap seed?

/-- Nonces count up, without a gap, from the only count that the chain named. -/
def Upward (vs : List Visit) : Prop :=
  seeds vs = [] ∧ nonces vs = [] ∨
    ∃ p, seeds vs = [p] ∧ nonces vs ≠ [] ∧ nonces vs = List.range' p (nonces vs).length

/-- A nonce was handed out since the account was forgotten for the last time. -/
def AllocatedSince (vs : List Visit) : Prop :=
  ∃ before v after, vs = before ++ v :: after ∧ v.nonce?.isSome = true ∧
    ∀ w ∈ after, w.forgets = false

variable {vs : List Visit} {v : Visit}

-- Nothing was handed out yet.
theorem not_allocatedSince_nil : ¬AllocatedSince [] := by
  rintro ⟨before, v, after, split, -⟩
  exact absurd split (by simp)

-- One more visit hands a nonce out, or it leaves things as they are.
theorem allocatedSince_snoc :
    AllocatedSince (vs ++ [v]) ↔
      v.nonce?.isSome = true ∨ v.forgets = false ∧ AllocatedSince vs := by
  constructor
  · rintro ⟨before, w, after, split, given, stays⟩
    rcases cut_snoc split with ⟨rfl, rfl, -⟩ | ⟨rest, rfl, cut⟩
    · exact Or.inl given
    · refine Or.inr ⟨stays v (by simp), before, w, rest, cut, given, fun x mem => ?_⟩
      exact stays x (by simp [mem])
  · rintro (given | ⟨stays, before, w, after, rfl, given, others⟩)
    · exact ⟨vs, v, [], rfl, given, fun w mem => absurd mem List.not_mem_nil⟩
    · refine ⟨before, w, after ++ [v], by simp, given, fun x mem => ?_⟩
      rcases List.mem_append.mp mem with mem | mem
      · exact others x mem
      · rw [List.mem_singleton.mp mem]
        exact stays

end Visit

section Lists

variable {α β : Type} {R : α → β → Prop} {xs : List α} {ys : List β}

-- Lists whose entries agree are split at the same places.
theorem forall₂_splitOnP {p : α → Bool} {q : β → Bool} (same : ∀ a b, R a b → p a = q b)
    (all : List.Forall₂ R xs ys) :
    List.Forall₂ (List.Forall₂ R) (xs.splitOnP p) (ys.splitOnP q) := by
  induction all with
  | nil =>
    rw [List.splitOnP_nil, List.splitOnP_nil]
    exact .cons .nil .nil
  | @cons a b xs ys agree rest ih =>
    rw [List.splitOnP_cons_eq_if_modifyHead, List.splitOnP_cons_eq_if_modifyHead, same a b agree]
    split
    · exact .cons .nil ih
    · generalize xs.splitOnP p = left at ih
      generalize ys.splitOnP q = right at ih
      cases ih with
      | nil => exact .nil
      | cons first others => exact .cons (.cons agree first) others

-- What is read off them is the same.
theorem filterMap_of_forall₂ {γ δ : Type} {f : α → Option γ} {g : β → Option δ} {h : δ → γ}
    (same : ∀ a b, R a b → f a = (g b).map h) (all : List.Forall₂ R xs ys) :
    xs.filterMap f = (ys.filterMap g).map h := by
  induction all with
  | nil => rfl
  | @cons a b xs ys agree rest ih =>
    rw [List.filterMap_cons, List.filterMap_cons, same a b agree]
    cases g b with
    | none => exact ih
    | some y => exact congrArg (h y :: ·) ih

-- What agrees with a member of the other list.
theorem mem_of_forall₂ (all : List.Forall₂ R xs ys) {a : α} (mem : a ∈ xs) :
    ∃ b ∈ ys, R a b := by
  induction all with
  | nil => exact absurd mem List.not_mem_nil
  | @cons c d xs ys agree rest ih =>
    rcases List.mem_cons.mp mem with rfl | mem
    · exact ⟨d, List.mem_cons_self, agree⟩
    · obtain ⟨b, mem, related⟩ := ih mem
      exact ⟨b, List.mem_cons_of_mem d mem, related⟩

end Lists

/-- Visits do to the nonce of an account what calls do that follow one another. -/
structure Kept (account : Address) (vs : List Visit) (last : Option UInt64) : Prop where
  /-- The calls that the visits were. -/
  follows : ∃ es, Follows account none es last ∧ List.Forall₂ Visit.Agrees vs es
  /-- The account is known if a nonce was handed out since it was forgotten. -/
  known : last.isSome = true ↔ Visit.AllocatedSince vs

namespace Kept

variable {account : Address} {vs : List Visit} {v : Visit} {e : Ended} {c d : Option UInt64}

-- Nothing happened yet.
theorem nil (account : Address) : Kept account [] none :=
  ⟨⟨[], .nil none, .nil⟩, by simpa using Visit.not_allocatedSince_nil⟩

/-- One more visit. -/
theorem snoc (k : Kept account vs c) (next : Next account c e d) (agrees : v.Agrees e) :
    Kept account (vs ++ [v]) d := by
  obtain ⟨es, follows, all⟩ := k.follows
  refine ⟨⟨es ++ [e], follows.snoc next, List.rel_append all (.cons agrees .nil)⟩, ?_⟩
  rw [Visit.allocatedSince_snoc, agrees.nonce, agrees.forgets, ← k.known, Option.isSome_map]
  cases goes : e.forgets with
  | true =>
    -- A reset hands nothing out.
    rw [next.empties goes]
    have silent : e.nonce? = none := by
      cases next with
      | forgets call reply result => simp [Ended.nonce?, result]
      | _ => simp_all [Ended.forgets]
    simp [silent]
  | false =>
    rw [next.remembers goes]
    cases e.nonce? <;> simp

/-- Between two visits at which the account was forgotten, nonces count up from the
    count that the chain named. -/
theorem upward (k : Kept account vs c) :
    ∀ piece ∈ vs.splitOnP Visit.forgets, Visit.Upward piece := by
  intro piece mem
  obtain ⟨es, follows, all⟩ := k.follows
  obtain ⟨calls, among, agree⟩ :=
    mem_of_forall₂ (forall₂_splitOnP (fun _ _ agrees => agrees.forgets) all) mem
  have up : Nonce.seeds calls = [] ∧ Nonce.nonces calls = [] ∨
      ∃ p, Nonce.seeds calls = [p] ∧ Nonce.nonces calls ≠ [] ∧
        (Nonce.nonces calls).map UInt64.toNat = List.range' p.toNat (Nonce.nonces calls).length := by
    obtain ⟨first, rest, split, ⟨-, stays, f, run⟩, others⟩ := follows.pieces
    rw [split] at among
    rcases List.mem_cons.mp among with rfl | among
    · exact run.upward stays
    · obtain ⟨-, stays, f, run⟩ := others calls among
      exact run.upward stays
  have nonces : Visit.nonces piece = (Nonce.nonces calls).map UInt64.toNat :=
    filterMap_of_forall₂ (fun _ _ agrees => agrees.nonce) agree
  have seeds : Visit.seeds piece = (Nonce.seeds calls).map UInt64.toNat :=
    filterMap_of_forall₂ (fun _ _ agrees => agrees.seed) agree
  unfold Visit.Upward
  rw [nonces, seeds, List.length_map]
  rcases up with ⟨unasked, nothing⟩ | ⟨p, once, some, counted⟩
  · exact Or.inl ⟨by rw [unasked]; rfl, by rw [nothing]; rfl⟩
  · exact Or.inr ⟨p.toNat, by rw [once]; rfl, by simpa using some, counted⟩

end Kept

end Api

end TxRelay
