import TxRelay.Proofs.Api.Move
import TxRelay.Proofs.Api.Errand
import TxRelay.Proofs.Nonce.Gapless
import TxRelay.Proofs.Provider.Talk

/-!
# Visits

A request with its answer, and with what a chain said when it was asked for its sake,
is a visit. What a tracker does with its calls is known: `Nonce.Next` says what one
call for an account makes of the nonce that was handed out last. A visit on an errand
is such a call, and its answer says what became of it (`Visit.Tells`). So nothing has
to be shown again of how nonces follow one another. What is left is that requests
reach the right account in the right table, and no other (`Service.Served`).

A request that needs no chain is served at once. Any other is served in two steps, as
time may pass between them: the chain is asked (`Service.ask`), and what it said is
noted (`Service.note`). The service itself takes both steps at once
(`Service.handle_query`).

## Main definitions

* `Api.Visit`: A request with what came of it.
* `Api.Visit.Tells`: A visit tells what became of a call.
* `Api.Service.last?`: The nonce that was handed out last.
* `Api.Query`, `Service.ask`, `note`: A chain is asked, and what it said is noted.
* `Api.Service.Served`: What serving a request does to the table of its chain.

## Theorems

* `Network.pendingCount_spec`: What the chain is asked, and what it says.
* `Api.Visit.Tells.agrees`: What is told is what became of the call.
* `Api.Service.served_now`, `served_note`: Every request on an errand is served.
* `Api.Service.handle_query`: The two steps together.
-/

namespace TxRelay

open Provider (Endpoints Exchange Session Verdict)

namespace Network

variable {σ : Type} (endpoints : Endpoints σ) (chain : ChainId) (account : Address)

/-- What a chain says when it is asked for the pending count of an account. -/
abbrev counted (n : Network σ) : List Exchange :=
  n.talk endpoints chain (.pendingCount account) (α := Nat) (Rpc.quantity? 32)

/-- What a chain is asked for a nonce, and what it says: the tries of the call are
    kept, they all ask for the pending count of the account on the chain, and the
    count that comes of it is what the last of them said. -/
theorem pendingCount_spec (n : Network σ) :
    (n.pendingCount endpoints chain account).2.tries =
        ((n.counted endpoints chain account).map Exchange.made).reverse ++ n.tries ∧
      (∀ x ∈ n.counted endpoints chain account,
        x.made.chain = chain ∧ x.made.request = .pendingCount account) ∧
      ∀ k, (n.pendingCount endpoints chain account).1 = .value k →
        ∃ before x, n.counted endpoints chain account = before ++ [x] ∧
          x.verdict (Rpc.quantity? 32) = .value k.toNat := by
  cases known : n.fleet.provider? chain with
  | none =>
    unfold counted talk pendingCount on
    rw [known]
    exact ⟨rfl, by simp, fun k value => absurd value (by simp)⟩
  | some p =>
    obtain ⟨talk, tries⟩ := Session.walk_talk endpoints (.pendingCount account)
      (Rpc.quantity? 32) ⟨p, n.world, n.tries⟩
    obtain ⟨before, x, parts, -, ends, -, -⟩ := talk.ending
    have said : n.counted endpoints chain account =
        Session.talk endpoints (.pendingCount account) (Rpc.quantity? 32)
          ⟨p, n.world, n.tries⟩ := by
      unfold counted Network.talk
      rw [known]
    have made := talk.made
    rw [Fleet.chain_of_provider? known] at made
    rw [said]
    unfold pendingCount on
    rw [known]
    unfold Session.pendingCount
    dsimp only
    refine ⟨?_, made, fun k value => ⟨before, x, parts, ?_⟩⟩
    · rw [← tries]
      cases Session.query "get pending nonce" p _ <;> rfl
    · rw [ends] at value
      cases verdict : x.verdict (Rpc.quantity? 32) with
      | value m =>
        simp only [verdict, Verdict.ending, Session.query] at value
        split at value
        · rename_i small
          rw [← Outcome.value.inj value]
          simp [Nat.mod_eq_of_lt small]
        · exact absurd value (by simp)
      | refused r => simp [verdict, Verdict.ending, Session.query] at value
      | failed => simp [verdict, Verdict.ending, Session.query] at value

end Network

-- Nobody is forgotten who is not known.
theorem Nonce.Table.erase_absent {account : Address} {t : Table} (absent : t.get? account = none) :
    t.erase account = t := by
  induction t with
  | nil => rfl
  | cons entry rest ih =>
    obtain ⟨a, n⟩ := entry
    by_cases here : account = a
    · subst here
      exact absurd absent (by simp [Table.get?])
    · have apart : (account == a) = false := beq_false_of_ne here
      simp only [Table.get?, List.lookup_cons, apart] at absent
      simp only [Table.erase, if_neg here, ih absent]

namespace Api

open Nonce (Call Ended Next Table)

namespace Service

/-- What a caller is told about a call that was made for its sake. -/
def tell (chain : ChainId) (call : Call) (result : Nonce.Result) : Reaction :=
  match call with
  | .allocate account => answerNonce chain account result
  | _ => .now (.bare (if result = .removed true then 204 else 404))

section Answers

variable (chain : ChainId) (account : Address)

@[simp]
theorem nonce?_answerNonce (n : UInt64) :
    (answerNonce chain account (.nonce n)).nonce? = some n.toNat := by
  simp [answerNonce, Reaction.nonce?, Answer.nonce?, Answer.json, Json.Value.field?,
    Json.Value.nat, Json.Number.toNat?_ofNat]

@[simp]
theorem nonce?_answerNonce_failed (f : Failure) :
    (answerNonce chain account (.failed f)).nonce? = none :=
  Answer.nonce?_ofFailure f

@[simp]
theorem nonce?_answerNonce_crashed (text : String) :
    (answerNonce chain account (.crashed text)).nonce? = none :=
  rfl

@[simp]
theorem forgets_answerNonce (result : Nonce.Result) :
    (answerNonce chain account result).forgets = false := by
  rcases result with n | f | present | n | text
  · rfl
  · cases f <;> rfl
  · rfl
  · rfl
  · rfl

end Answers

end Service

/-- A request with what came of it. -/
structure Visit where
  /-- The request. -/
  request : Request
  /-- What came of it. -/
  reaction : Reaction
  /-- What was said when the chain was asked for its sake, the first exchange
      first. -/
  said : List Exchange

namespace Visit

/-- The nonce that the request was answered with. -/
def nonce? (v : Visit) : Option Nat :=
  v.reaction.nonce?

/-- Whether the account was forgotten. -/
def forgets (v : Visit) : Bool :=
  v.reaction.forgets

/-- The pending count that the chain named for a nonce that was handed out. -/
def seed? (v : Visit) : Option Nat :=
  if v.nonce?.isSome then
    v.said.getLast?.bind fun x =>
      match x.verdict (Rpc.quantity? 32) with
      | .value n => some n
      | _ => none
  else none

/-- A visit to a chain tells what became of a call. -/
structure Tells (chain : ChainId) (v : Visit) (e : Ended) : Prop where
  /-- The request was on that errand. -/
  errand : v.request.errand? = some (chain, e.call)
  /-- Its caller was told. -/
  reaction : v.reaction = Service.tell chain e.call e.result
  /-- The chain was not asked for nothing. -/
  unasked : e.reply = none → v.said = []
  /-- What the chain said is its reply. -/
  asked : ∀ k, e.reply = some (.value k) →
    ∃ before x, v.said = before ++ [x] ∧ x.verdict (Rpc.quantity? 32) = .value k.toNat
  /-- It was asked for the pending count of the account. -/
  made : ∀ x ∈ v.said, ∃ account, e.call = .allocate account ∧ x.made.chain = chain ∧
    x.made.request = .pendingCount account

/-- A visit and a call agree on what became of a nonce. -/
structure Agrees (v : Visit) (e : Ended) : Prop where
  /-- The same nonce was handed out. -/
  nonce : v.nonce? = e.nonce?.map UInt64.toNat
  /-- The account was forgotten, or was not. -/
  forgets : v.forgets = e.forgets
  /-- The chain named the same count. -/
  seed : v.seed? = e.seed?.map UInt64.toNat

section Told

variable {v : Visit} {e : Ended} {chain : ChainId} {account : Address} {c d : Option UInt64}

-- No count is named if nothing is said, or if no nonce is handed out.
theorem seed?_of_unasked (unasked : v.said = []) : v.seed? = none := by
  simp [seed?, unasked]

theorem seed?_of_silent (silent : v.nonce? = none) : v.seed? = none := by
  simp [seed?, silent]

-- The nonce that a caller is told is the one that was handed out.
theorem nonce?_tell (next : Next account c e d) :
    (Service.tell chain e.call e.result).nonce? = e.nonce?.map UInt64.toNat := by
  cases next with
  | forgets call reply result | absent call reply result =>
    simp only [Ended.nonce?, call, result]
    rfl
  | _ => simp [Service.tell, Ended.nonce?, *]

-- A caller is told that its account was forgotten if it was.
theorem forgets_tell (next : Next account c e d) :
    (Service.tell chain e.call e.result).forgets = e.forgets := by
  cases next with
  | forgets call reply result | absent call reply result =>
    simp only [Ended.forgets, call, result]
    rfl
  | _ => simp [Service.tell, Ended.forgets, *]

/-- What a visit tells about a call is what became of it. -/
theorem Tells.agrees (tells : v.Tells chain e) (next : Next account c e d) : v.Agrees e := by
  have nonce : v.nonce? = e.nonce?.map UInt64.toNat :=
    (congrArg Reaction.nonce? tells.reaction).trans (nonce?_tell next)
  have forgets : v.forgets = e.forgets :=
    (congrArg Reaction.forgets tells.reaction).trans (forgets_tell next)
  refine ⟨nonce, forgets, ?_⟩
  cases next with
  | @seeds _ n call reply result =>
    obtain ⟨before, x, said, verdict⟩ := tells.asked n reply
    simp [seed?, nonce, Ended.nonce?, result, said, verdict, Ended.seed?, reply]
  | fails call reply result | crashes call reply result =>
    have silent : v.nonce? = none := by simp [nonce, Ended.nonce?, result]
    simp [seed?_of_silent silent, Ended.seed?, reply]
  | counts _ call reply result | full _ call reply result | forgets call reply result
  | absent call reply result =>
    simp [seed?_of_unasked (tells.unasked reply), Ended.seed?, reply]

end Told

end Visit

/-- A request for which a chain is asked. -/
structure Query where
  /-- The request. -/
  request : Request
  /-- The account. -/
  account : Address
  /-- What its pending count comes to. -/
  outcome : Outcome UInt64
  /-- What was said, the first exchange first. -/
  said : List Exchange

/-- A chain is asked for the sake of a request. -/
structure Query.Asks (chain : ChainId) (q : Query) : Prop where
  /-- The request is for the next nonce of the account. -/
  errand : q.request.errand? = some (chain, .allocate q.account)
  /-- The chain is asked for the pending count of the account. -/
  made : ∀ x ∈ q.said, x.made.chain = chain ∧ x.made.request = .pendingCount q.account
  /-- What comes of it is what the chain said last. -/
  counted : ∀ k, q.outcome = .value k →
    ∃ before x, q.said = before ++ [x] ∧ x.verdict (Rpc.quantity? 32) = .value k.toNat

namespace Service

variable {σ : Type}

/-- The nonce that was handed out last for an account on a chain. -/
def last? (chain : ChainId) (account : Address) (s : Service σ) : Option UInt64 :=
  (s.table? chain).bind (·.get? account)

/-- The chain that has to be asked before a request can be answered, and the account
    in question. -/
def query? (r : Request) (s : Service σ) : Option (ChainId × Address) :=
  r.errand?.bind fun x =>
    (s.table? x.1).bind fun t => (t.query? x.2).map fun account => (x.1, account)

/-- Asks a chain for the sake of a request. -/
def ask (c : Setup σ) (r : Request) (chain : ChainId) (account : Address) (s : Service σ) :
    Query × Service σ :=
  let outside := s.queue.outside
  let q := outside.world.pendingCount c.endpoints chain account
  (⟨r, account, q.1, outside.world.counted c.endpoints chain account⟩,
    s.withOutside { outside with world := q.2 })

/-- Notes in the table of a chain what it said, and answers the request. -/
def note (chain : ChainId) (q : Query) (t : Table) (s : Service σ) : Reaction × Service σ :=
  let r := t.seed q.account q.outcome
  (answerNonce chain q.account r.1,
    (s.withOutside (s.queue.outside.measure (r.1.record .chain ·))).setTable chain r.2)

/-- What serving a request for an account does to the table of its chain. -/
structure Served (s s' : Service σ) (chain : ChainId) (account : Address) (v : Visit) (e : Ended)
    (t u : Table) : Prop where
  /-- The caller is told. -/
  tells : v.Tells chain e
  /-- The account has what the call left for it. -/
  next : Next account (t.get? account) e (u.get? account)
  /-- The table is replaced. -/
  nonces : s'.nonces = (s.setTable chain u).nonces
  /-- Other accounts are left alone. -/
  others : ∀ other, other ≠ account → u.get? other = t.get? other
  /-- If no nonce was handed out and nobody was forgotten, nothing changed. -/
  kept : e.nonce? = none → e.forgets = false → u = t

variable {c : Setup σ} {s s' : Service σ} {r : Request} {chain : ChainId} {account : Address}
  {t u : Table} {v : Visit} {e : Ended}

section Tables

-- What is found after the table of a chain was replaced, if it has one.
theorem table?_setTable (other : ChainId) (u : Table) :
    (s.setTable chain u).table? other =
      if other = chain then (s.table? chain).map fun _ => u else s.table? other := by
  obtain ⟨queue, tables⟩ := s
  unfold table? setTable
  dsimp only
  induction tables with
  | nil => simp
  | cons e rest ih =>
    obtain ⟨k, v⟩ := e
    by_cases here : k = chain
    · subst here
      by_cases same : other = k
      · simp [same]
      · have apart : (other == k) = false := beq_false_of_ne same
        simp only [List.map_cons, if_true, List.lookup_cons, apart, same, if_false] at ih ⊢
        exact ih
    · have apart : (chain == k) = false := beq_false_of_ne (Ne.symm here)
      by_cases same : other = k
      · subst same
        simp [here]
      · have apart' : (other == k) = false := beq_false_of_ne same
        simp only [List.map_cons, here, if_false, List.lookup_cons, apart, apart'] at ih ⊢
        exact ih

-- Tables are found by what the service holds.
theorem table?_congr (same : s'.nonces = s.nonces) (chain : ChainId) :
    s'.table? chain = s.table? chain := by
  unfold table?
  rw [same]

-- So are the nonces in them.
theorem last?_congr (same : s'.nonces = s.nonces) (chain : ChainId) (account : Address) :
    s'.last? chain account = s.last? chain account := by
  unfold last?
  rw [table?_congr same]

/-- For which requests a chain has to be asked. -/
theorem query?_eq_some :
    s.query? r = some (chain, account) ↔
      r.errand? = some (chain, .allocate account) ∧
        ∃ t, s.table? chain = some t ∧ t.get? account = none := by
  simp only [query?, Option.bind_eq_some_iff, Option.map_eq_some_iff, Prod.mk.injEq,
    Table.query?_eq_some]
  constructor
  · rintro ⟨⟨chain', call⟩, errand, t, tracked, account', ⟨rfl, unknown⟩, rfl, rfl⟩
    exact ⟨errand, t, tracked, unknown⟩
  · rintro ⟨errand, t, tracked, unknown⟩
    exact ⟨_, errand, t, tracked, account, ⟨rfl, unknown⟩, rfl, rfl⟩

end Tables

namespace Served

/-- Which tables there are afterwards. -/
theorem table? (served : Served s s' chain account v e t u) (tracked : s.table? chain = some t)
    (other : ChainId) : s'.table? other = if other = chain then some u else s.table? other := by
  rw [table?_congr served.nonces, table?_setTable, tracked]
  rfl

/-- What became of the nonce of the account. -/
theorem last? (served : Served s s' chain account v e t u) (tracked : s.table? chain = some t) :
    Next account (s.last? chain account) e (s'.last? chain account) := by
  unfold Service.last?
  rw [served.table? tracked, if_pos rfl, tracked]
  exact served.next

/-- What became of the others. -/
theorem last?_other (served : Served s s' chain account v e t u)
    (tracked : s.table? chain = some t) {there : ChainId} {other : Address}
    (apart : ¬(there = chain ∧ other = account)) :
    s'.last? there other = s.last? there other := by
  unfold Service.last?
  rw [served.table? tracked]
  split
  · rename_i here
    subst here
    rw [tracked]
    exact served.others other fun same => apart ⟨rfl, same⟩
  · rfl

/-- Only a nonce and a forgotten account change a table. -/
theorem unchanged (served : Served s s' chain account v e t u) (tracked : s.table? chain = some t)
    (silent : v.nonce? = none) (stays : v.forgets = false) (other : ChainId) :
    s'.table? other = s.table? other := by
  have agrees := served.tells.agrees served.next
  have nothing : e.nonce? = none := by
    rw [agrees.nonce, Option.map_eq_none_iff] at silent
    exact silent
  rw [served.table? tracked, served.kept nothing (agrees.forgets.symm.trans stays)]
  split
  · rename_i here
    rw [here, tracked]
  · rfl

end Served

section Serving

/-- What comes of a request that needs no chain. -/
theorem handle_now {call : Call} (errand : r.errand? = some (chain, call))
    (tracked : s.table? chain = some t) (known : t.query? call = none) :
    (s.handle c r).1 = tell chain call (t.serve call Nonce.unasked).1 ∧
      (s.handle c r).2.nonces = (s.setTable chain (t.serve call Nonce.unasked).2).nonces := by
  cases call with
  | allocate account =>
    cases found : t.get? account with
    | none => simp [Table.query?, found] at known
    | some n =>
      rw [handle_allocate errand tracked, ← Table.serve_of_known known (.failure .queueClosed)]
      simp only [allocate, found]
      exact ⟨rfl, rfl⟩
  | reset account =>
    rw [handle_reset errand tracked]
    refine ⟨?_, rfl⟩
    simp only [tell, Table.serve, Nonce.Result.removed.injEq]
  | count => exact absurd errand r.errand?_ne_count

-- A call that hands nothing out and forgets nobody leaves the table as it is.
theorem serve_kept {call : Call} (known : t.query? call = none)
    (silent : Ended.nonce? ⟨0, 0, call, none, (t.serve call Nonce.unasked).1⟩ = none)
    (stays : Ended.forgets ⟨0, 0, call, none, (t.serve call Nonce.unasked).1⟩ = false) :
    (t.serve call Nonce.unasked).2 = t := by
  cases call with
  | allocate account =>
    cases found : t.get? account with
    | none => simp [Table.query?, found] at known
    | some n =>
      simp only [Table.serve, found, Table.advance] at silent ⊢
      split at silent
      · rw [if_pos ‹_›]
      · exact absurd silent (by simp [Ended.nonce?])
  | reset account =>
    refine Table.erase_absent ?_
    simpa [Ended.forgets, Table.serve] using stays
  | count => rfl

/-- A request that needs no chain is served at once. -/
theorem served_now {call : Call} (errand : r.errand? = some (chain, call))
    (tracked : s.table? chain = some t) (known : t.query? call = none) :
    ∃ account e u, (call = .allocate account ∨ call = .reset account) ∧
      Served s (s.handle c r).2 chain account ⟨r, (s.handle c r).1, []⟩ e t u := by
  have about : ∃ account, call = .allocate account ∨ call = .reset account := by
    cases call with
    | allocate account => exact ⟨account, Or.inl rfl⟩
    | reset account => exact ⟨account, Or.inr rfl⟩
    | count => exact absurd errand r.errand?_ne_count
  obtain ⟨account, about⟩ := about
  obtain ⟨told, nonces⟩ := handle_now (c := c) errand tracked known
  have concerns (other : Address) :
      Ended.concerns other ⟨0, 0, call, none, (t.serve call Nonce.unasked).1⟩ =
        decide (account = other) := by
    obtain rfl | rfl := about <;> rfl
  refine ⟨account, ⟨0, 0, call, none, (t.serve call Nonce.unasked).1⟩, _, about,
    ⟨errand, told, fun _ => rfl, fun _ none => absurd none (by simp), by simp⟩, ?_, nonces,
    fun other apart => ?_, serve_kept known⟩
  · rcases Table.next_serve known account 0 0 with ⟨-, next⟩ | ⟨other, -⟩
    · exact next
    · exact absurd ((concerns account).symm.trans other) (by simp)
  · rcases Table.next_serve known other 0 0 with ⟨mine, -⟩ | ⟨-, same⟩
    · exact absurd ((concerns other).symm.trans mine) (by simpa using Ne.symm apart)
    · exact same

/-- What it is to ask a chain. -/
theorem ask_spec (errand : r.errand? = some (chain, .allocate account)) :
    (s.ask c r chain account).1.Asks chain ∧ (s.ask c r chain account).2.nonces = s.nonces ∧
      (s.ask c r chain account).2.queue.outside.world.tries =
        ((s.ask c r chain account).1.said.map Exchange.made).reverse ++
          s.queue.outside.world.tries := by
  obtain ⟨tries, made, counted⟩ :=
    Network.pendingCount_spec c.endpoints chain account s.queue.outside.world
  exact ⟨⟨errand, made, counted⟩, rfl, tries⟩

/-- A request for which a chain was asked is served when it is told. -/
theorem served_note {q : Query} (asks : q.Asks chain) (unknown : t.get? q.account = none) :
    Served s (s.note chain q t).2 chain q.account ⟨q.request, (s.note chain q t).1, q.said⟩
      ⟨0, 0, .allocate q.account, some q.outcome, (t.seed q.account q.outcome).1⟩ t
      (t.seed q.account q.outcome).2 := by
  refine ⟨⟨asks.errand, rfl, fun none => absurd none (by simp), fun k reply => ?_,
    fun x mem => ⟨q.account, rfl, asks.made x mem⟩⟩, ?_, rfl,
    fun other apart => Table.get?_seed_other apart q.outcome t, ?_⟩
  · exact asks.counted k (Option.some.inj reply)
  · rw [unknown]
    exact Table.next_seed unknown q.outcome 0 0
  · cases q.outcome with
    | value n => exact fun silent => absurd silent (by simp [Ended.nonce?, Table.seed])
    | failure f => exact fun _ _ => rfl
    | crash text => exact fun _ _ => rfl

/-- The service takes both steps at once. -/
theorem handle_query (errand : r.errand? = some (chain, .allocate account))
    (tracked : s.table? chain = some t) (unknown : t.get? account = none) :
    s.handle c r = (s.ask c r chain account).2.note chain (s.ask c r chain account).1 t := by
  rw [handle_allocate errand tracked]
  simp only [allocate, unknown, Table.serve_of_unknown unknown]
  rfl

end Serving

end Service

end Api

end TxRelay
