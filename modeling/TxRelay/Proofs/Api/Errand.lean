import TxRelay.Api.Command

/-!
# Errands

Of all requests only two do something to the nonces: one that asks for the next
nonce of an account on a chain, and one that asks that the account be forgotten
there. `Request.errand?` reads them: it says which chain and which account a
request is about, however they are written in it. A request is on no errand if it
goes elsewhere, or if something in it cannot be read.

A request on an errand is served on the table of its chain, and what it is answered
says what became of it: a nonce is in the body of an answer with status 200, and an
account was forgotten if the status is 204. A request on no errand is answered in
neither way, and does nothing to the tables.

## Main definitions

* `Api.Request.errand?`: What a request is about.
* `Api.Reaction.nonce?`, `Reaction.forgets`: What an answer says about the nonces.
* `Api.Service.Idle`: Nothing happened to the nonces.

## Theorems

* `Api.Request.errand?_eq_allocate`, `errand?_eq_reset`: Which requests are on an
  errand.
* `Api.Service.handle_allocate`, `handle_reset`, `handle_untracked`,
  `handle_aimless`: What comes of a request.
-/

namespace TxRelay

-- A number is read from its digits.
theorem Json.Number.toNat?_ofNat (n : Nat) : (Json.Number.ofNat n).toNat? = some n := by
  have value : Json.digitsValue (Nat.toDigits 10 n) = n := by
    have step : (fun (acc : Nat) (c : Char) => acc * 10 + (c.toNat - 48)) =
        fun acc c => 10 * acc + (c.toNat - '0'.toNat) := by
      funext acc c
      rw [Nat.mul_comm]
      rfl
    unfold Json.digitsValue
    rw [step]
    exact Nat.ofDigitChars_ten_toDigits
  simp [Json.Number.toNat?, Json.Number.toInt?, Json.Number.ofNat, value]

namespace Api

open Nonce (Call Table)

/-- The nonce that an answer hands out, as it stands in its body. -/
def Answer.nonce? (a : Answer) : Option Nat :=
  if a.status = 200 then
    match a.body.bind (·.field? "nonce") with
    | some (.num n) => n.toNat?
    | _ => none
  else none

-- The answer to a failure names no nonce.
theorem Answer.nonce?_ofFailure (f : Failure) : (Answer.ofFailure f).nonce? = none := by
  unfold Answer.nonce?
  split <;> rfl

-- Nor does it tell of a success.
theorem Answer.status_ofFailure_ne (f : Failure) : (Answer.ofFailure f).status ≠ 200 := by
  show statusOf f ≠ 200
  cases f <;> unfold statusOf <;> simp

-- Without its body an answer names no nonce.
theorem Answer.nonce?_headOnly (a : Answer) : a.headOnly.nonce? = none := by
  unfold Answer.nonce? Answer.headOnly
  split <;> rfl

namespace Reaction

/-- The nonce that a request is answered with. -/
def nonce? : Reaction → Option Nat
  | .now a => a.nonce?
  | _ => none

/-- Whether a request is told that an account was forgotten. -/
def forgets : Reaction → Bool
  | .now a => a.status == 204
  | _ => false

end Reaction

/-- What a request is about: the chain, and what is asked of the nonces there. A
    request that goes elsewhere, or that cannot be read, is about nothing. -/
def Request.errand? (r : Request) : Option (ChainId × Call) :=
  match Resource.ofPath? r.path with
  | some .nonces =>
    if r.method = "POST" ∧ r.mediaType.any isJson = true then
      (Body.read "account" r.body).toOption.bind fun b =>
        (readAccount b.text).toOption.map fun account => (b.chain, .allocate account)
    else none
  | some (.nonce chain account) =>
    if r.method = "DELETE" then
      ((decodeArgument? chain).bind chainArgument?).bind fun chain =>
        ((decodeArgument? account).bind fun text => (readAccount text).toOption).map fun account =>
          (chain, .reset account)
    else none
  | _ => none

section Errands

variable {r : Request} {chain : ChainId} {account : Address}

theorem toOption_eq_some {ε α : Type} {x : Except ε α} {a : α} :
    x.toOption = some a ↔ x = .ok a := by
  cases x <;> simp [Except.toOption]

/-- Which requests ask for a nonce. -/
theorem Request.errand?_eq_allocate :
    r.errand? = some (chain, .allocate account) ↔
      Resource.ofPath? r.path = some .nonces ∧ r.method = "POST" ∧ r.mediaType.any isJson = true ∧
        ∃ text, Body.read "account" r.body = .ok ⟨chain, text⟩ ∧
          readAccount text = .ok account := by
  unfold errand?
  constructor
  · intro errand
    split at errand
    · rename_i path
      split at errand
      · rename_i front
        simp only [Option.bind_eq_some_iff, Option.map_eq_some_iff, toOption_eq_some] at errand
        obtain ⟨⟨chain', text⟩, body, account', read, same⟩ := errand
        simp only [Prod.mk.injEq, Call.allocate.injEq] at same
        obtain ⟨rfl, rfl⟩ := same
        exact ⟨path, front.1, front.2, text, body, read⟩
      · exact absurd errand (by simp)
    · split at errand
      · simp [Option.bind_eq_some_iff] at errand
      · exact absurd errand (by simp)
    · exact absurd errand (by simp)
  · rintro ⟨path, method, json, text, body, read⟩
    rw [path]
    dsimp only
    rw [if_pos ⟨method, json⟩, body]
    simp [Except.toOption, read]

/-- Which requests ask that an account be forgotten. -/
theorem Request.errand?_eq_reset :
    r.errand? = some (chain, .reset account) ↔
      ∃ x y number text, Resource.ofPath? r.path = some (.nonce x y) ∧ r.method = "DELETE" ∧
        decodeArgument? x = some number ∧ chainArgument? number = some chain ∧
        decodeArgument? y = some text ∧ readAccount text = .ok account := by
  unfold errand?
  constructor
  · intro errand
    split at errand
    · split at errand
      · simp [Option.bind_eq_some_iff] at errand
      · exact absurd errand (by simp)
    · rename_i x y path
      split at errand
      · rename_i method
        simp only [Option.bind_eq_some_iff, Option.map_eq_some_iff, toOption_eq_some] at errand
        obtain ⟨chain', ⟨number, decoded, named⟩, account', ⟨text, decoded', read⟩, same⟩ := errand
        simp only [Prod.mk.injEq, Call.reset.injEq] at same
        obtain ⟨rfl, rfl⟩ := same
        exact ⟨x, y, number, text, path, method, decoded, named, decoded', read⟩
      · exact absurd errand (by simp)
    · exact absurd errand (by simp)
  · rintro ⟨x, y, number, text, path, method, decoded, named, decoded', read⟩
    rw [path]
    dsimp only
    rw [if_pos method, decoded, decoded']
    simp [Except.toOption, named, read]

-- No request asks how many accounts there are.
theorem Request.errand?_ne_count (r : Request) : r.errand? ≠ some (chain, .count) := by
  unfold errand?
  intro errand
  split at errand
  · split at errand <;> simp [Option.bind_eq_some_iff] at errand
  · split at errand <;> simp [Option.bind_eq_some_iff] at errand
  · exact absurd errand (by simp)

end Errands

namespace Service

variable {σ : Type} {c : Setup σ} {s : Service σ} {r : Request} {chain : ChainId}
  {account : Address} {t : Table}

-- A request for a nonce is served on the table of its chain.
theorem handle_allocate (errand : r.errand? = some (chain, .allocate account))
    (known : s.table? chain = some t) :
    s.handle c r = (answerNonce chain account (s.allocate c chain account t).1,
      (s.allocate c chain account t).2) := by
  obtain ⟨path, method, json, text, body, read⟩ := Request.errand?_eq_allocate.mp errand
  unfold handle
  rw [if_neg (by rw [method]; decide), path]
  simp only [method, Resource.allows, beq_self_eq_true, if_true, visit, withBody, json, body,
    takeNonce, read, known]
  cases (s.allocate c chain account t).1 <;> rfl

-- So is a request that an account be forgotten.
theorem handle_reset (errand : r.errand? = some (chain, .reset account))
    (known : s.table? chain = some t) :
    s.handle c r = (.now (.bare (if (t.get? account).isSome then 204 else 404)),
      s.setTable chain (t.erase account)) := by
  obtain ⟨x, y, number, text, path, method, decoded, named, decoded', read⟩ :=
    Request.errand?_eq_reset.mp errand
  unfold handle
  rw [if_neg (by rw [method]; decide), path]
  simp only [method, Resource.allows, beq_self_eq_true, if_true, visit, forgetNonce, decoded,
    decoded', named, read, known, Table.serve, Nonce.Result.removed.injEq]
  rw [if_neg (by decide)]

-- On a chain whose nonces are not kept track of there is nothing to do.
theorem handle_untracked {call : Call} (errand : r.errand? = some (chain, call))
    (unknown : s.table? chain = none) :
    s.handle c r = (.now (.ofFailure (.chainNotFound chain)), s) := by
  unfold handle
  cases call with
  | allocate account =>
    obtain ⟨path, method, json, text, body, read⟩ := Request.errand?_eq_allocate.mp errand
    rw [if_neg (by rw [method]; decide), path]
    simp only [method, Resource.allows, beq_self_eq_true, if_true, visit, withBody, json, body,
      takeNonce, read, unknown]
    rfl
  | reset account =>
    obtain ⟨x, y, number, text, path, method, decoded, named, decoded', read⟩ :=
      Request.errand?_eq_reset.mp errand
    rw [if_neg (by rw [method]; decide), path]
    simp only [method, Resource.allows, beq_self_eq_true, if_true, visit, forgetNonce, decoded,
      decoded', named, read, unknown]
    rfl
  | count => exact absurd errand r.errand?_ne_count

/-- Nothing happened to the nonces, and the answer says nothing of them. -/
def Idle (s : Service σ) (p : Reaction × Service σ) : Prop :=
  p.2.nonces = s.nonces ∧ p.1.nonce? = none ∧ p.1.forgets = false

-- A failure says nothing of the nonces.
theorem idle_ofFailure (f : Failure) : s.Idle (.now (.ofFailure f), s) :=
  ⟨rfl, Answer.nonce?_ofFailure f, by cases f <;> rfl⟩

theorem idle_bare {status : Nat} (other : status ≠ 204) : s.Idle (.now (.bare status), s) := by
  refine ⟨rfl, ?_, by simpa [Reaction.forgets, Answer.bare] using other⟩
  show Answer.nonce? (.bare status) = none
  unfold Answer.nonce?
  split <;> rfl

-- What is wrong with a body says nothing of the nonces.
theorem idle_withBody {textName : String} {go : Body → Reaction × Service σ}
    (goes : ∀ b, r.mediaType.any isJson = true → Body.read textName r.body = .ok b →
      s.Idle (go b)) : s.Idle (s.withBody textName r go) := by
  unfold withBody
  by_cases json : r.mediaType.any isJson = true
  · rw [if_pos json]
    cases body : Body.read textName r.body with
    | ok b => exact goes b json body
    | error fault => cases fault <;> exact idle_bare (by decide)
  · rw [if_neg json]
    exact idle_bare (by decide)

-- A submission does nothing to the nonces.
theorem idle_submit (b : Body) : s.Idle (s.submit c b) := by
  unfold submit
  cases readRaw b.text with
  | error f => exact idle_ofFailure f
  | ok raw =>
    dsimp only
    cases s.fleet.provider? b.chain with
    | none => exact idle_ofFailure _
    | some p => exact ⟨rfl, rfl, rfl⟩

theorem idle_visit {resource : Resource} (path : Resource.ofPath? r.path = some resource)
    (allowed : resource.allows r.method = true) (aimless : r.errand? = none) :
    s.Idle (s.visit c resource r) := by
  have aims {x : ChainId × Call} (errand : r.errand? = some x) {P : Prop} : P := by
    rw [aimless] at errand
    exact absurd errand (by simp)
  cases resource with
  | health =>
    refine ⟨rfl, ?_, rfl⟩
    simp [visit, Reaction.nonce?, Answer.nonce?, health, Answer.json, Json.Value.field?]
  | status =>
    refine ⟨rfl, ?_, rfl⟩
    simp [visit, Reaction.nonce?, Answer.nonce?, Service.status, Answer.json, Json.Value.field?]
  | ready =>
    refine ⟨rfl, ?_, ?_⟩
    · simp [visit, Reaction.nonce?, Answer.nonce?, Service.ready, Answer.json, Json.Value.field?]
    · simp only [visit, Reaction.forgets, Service.ready, Answer.json]
      split <;> rfl
  | transactions => exact idle_withBody fun b _ _ => s.idle_submit b
  | nonces =>
    refine idle_withBody fun b json body => ?_
    unfold takeNonce
    cases read : readAccount b.text with
    | error f => exact idle_ofFailure f
    | ok account =>
      have method : r.method = "POST" := by simpa [Resource.allows] using allowed
      exact aims (Request.errand?_eq_allocate.mpr ⟨path, method, json, b.text, body, read⟩)
  | nonce x y =>
    have method : r.method = "DELETE" := by simpa [Resource.allows] using allowed
    unfold visit forgetNonce
    dsimp only
    cases decoded : decodeArgument? x with
    | none => exact idle_bare (by decide)
    | some number =>
      cases decoded' : decodeArgument? y with
      | none => exact idle_bare (by decide)
      | some text =>
        dsimp only
        cases named : chainArgument? number with
        | none => exact idle_bare (by decide)
        | some chain =>
          dsimp only
          cases read : readAccount text with
          | error f => exact idle_ofFailure f
          | ok account =>
            exact aims (Request.errand?_eq_reset.mpr
              ⟨x, y, number, text, path, method, decoded, named, decoded', read⟩)

/-- A request on no errand does nothing to the nonces, and its answer says nothing of
    them. -/
theorem handle_aimless (aimless : r.errand? = none) : s.Idle (s.handle c r) := by
  unfold handle
  by_cases asks : r.method = "OPTIONS"
  · rw [if_pos asks]
    exact idle_bare (by decide)
  · rw [if_neg asks]
    cases path : Resource.ofPath? r.path with
    | none => exact idle_bare (by decide)
    | some resource =>
      dsimp only
      by_cases allowed : resource.allows r.method = true
      · rw [if_pos allowed]
        have idle : s.Idle (s.visit c resource r) := idle_visit path allowed aimless
        rcases visited : s.visit c resource r with ⟨a | n | text, t⟩
        · rw [visited] at idle
          dsimp only
          -- A body that is left out names no nonce either.
          split
          · exact ⟨idle.1, a.nonce?_headOnly, idle.2.2⟩
          · exact idle
        · rw [visited] at idle
          exact idle
        · rw [visited] at idle
          exact idle
      · rw [if_neg allowed]
        exact idle_bare (by decide)

end Service

end Api

end TxRelay
