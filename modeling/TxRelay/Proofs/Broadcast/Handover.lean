import TxRelay.Broadcast
import TxRelay.Proofs.Provider.Talk

/-!
# Handing a Transaction Over

What a node says to a transaction that is handed over, and what an attempt makes
of it. An attempt is one call of the chain's provider, so it has several
exchanges, but only the last one counts: the endpoints before it were of no use.
`Network.sendRaw_spec` says that the answer of an attempt is the conclusion from
its last exchange, and `Exchange.judge_conclusion` what that answer decides.

## Main definitions

* `Provider.Exchange.Accepted`: The transaction is with the chain, under a hash.
* `Provider.Exchange.Final`: A further try is pointless.
* `Provider.Exchange.conclusion`: What an attempt answers.
* `Network.handed`: The tries that handed a transaction over.
* `Network.Calm`: Nothing is handed over, and no chain is lost.

## Theorems

* `Provider.Exchange.judge_conclusion`: What the last exchange decides.
* `Network.sendRaw_spec`: An attempt answers what follows from its last exchange.
* `Network.calm_transaction`, `calm_pendingCount`, `calm_probe`: What is asked of the
  chains besides.
-/

namespace TxRelay

/-- Whether a request hands a transaction over. -/
def Rpc.Request.handsOver (r : Rpc.Request) : Bool :=
  r.method == "eth_sendRawTransaction"

namespace Provider

namespace Exchange

/-- What a node said to a transaction. -/
def handover (x : Exchange) : Verdict Hash :=
  x.verdict (Rpc.fixed? 32)

/-- The transaction is with the chain: the node answered with a hash, or it has
    the transaction already, whose hash follows from its bytes. -/
inductive Accepted (raw : Bytes) (x : Exchange) : Hash → Prop where
  /-- The node answered with a hash. -/
  | hash {hash : Hash} (said : x.handover = .value hash) : Accepted raw x hash
  /-- The node has the transaction already. -/
  | known {r : Rpc.Refusal} (said : x.handover = .refused r)
      (known : Rejection.ofMessage r.text = .alreadyKnown) : Accepted raw x (keccak256 raw)

/-- The node will not have the transaction: its nonce was used, or the account
    cannot pay. -/
def Hopeless (x : Exchange) : Prop :=
  ∃ r, x.handover = .refused r ∧
    (Rejection.ofMessage r.text = .nonceTooLow ∨ Rejection.ofMessage r.text = .insufficientFunds)

/-- A further try is pointless. -/
def Final (raw : Bytes) (x : Exchange) : Prop :=
  (∃ hash, x.Accepted raw hash) ∨ x.Hopeless

/-- What an attempt answers that ends with this exchange. -/
def conclusion (chain : ChainId) (x : Exchange) : Except Failure Hash :=
  match x.handover with
  | .value hash => .ok hash
  | .refused r => .error (.transaction r.text)
  | .failed => .error (.chainConnection chain "All providers failed to send raw transaction")

variable {raw : Bytes} {x : Exchange}

-- An endpoint that is of no use decides nothing.
theorem not_final_of_failed (failed : x.Failed (Rpc.fixed? 32)) : ¬x.Final raw := by
  have said : x.handover = .failed := failed
  rintro (⟨hash, accepted⟩ | ⟨r, refused, -⟩)
  · cases accepted with
    | hash value => simp [said] at value
    | known refused => simp [said] at refused
  · simp [said] at refused

/-- What an attempt decides that ends with an exchange: to accept what the node
    accepted, to give up what is pointless, and to go on otherwise. -/
theorem judge_conclusion (chain : ChainId) (raw : Bytes) (x : Exchange) :
    (∃ hash, x.Accepted raw hash ∧
      Broadcast.judge chain raw (x.conclusion chain) = .accept hash) ∨
    (x.Hopeless ∧ (∀ hash, ¬x.Accepted raw hash) ∧
      ∃ f, Broadcast.judge chain raw (x.conclusion chain) = .refuse f) ∨
    (¬x.Final raw ∧ ∃ f, Broadcast.judge chain raw (x.conclusion chain) = .again f) := by
  cases said : x.handover with
  | value hash =>
    refine Or.inl ⟨hash, .hash said, ?_⟩
    simp [conclusion, said, Broadcast.judge]
  | failed =>
    refine Or.inr (Or.inr ⟨not_final_of_failed said,
      .chainConnection chain "All providers failed to send raw transaction", ?_⟩)
    simp [conclusion, said, Broadcast.judge, Failure.retryable]
  | refused r =>
    -- Unless the node has the transaction, it does not accept it.
    have lost (other : Rejection.ofMessage r.text ≠ .alreadyKnown) (hash : Hash) :
        ¬x.Accepted raw hash := by
      rintro (⟨value⟩ | ⟨refused, known⟩)
      · simp [said] at value
      · obtain rfl := Verdict.refused.inj (said.symm.trans refused)
        exact other known
    cases rejection : Rejection.ofMessage r.text with
    | alreadyKnown =>
      refine Or.inl ⟨_, .known said rejection, ?_⟩
      simp [conclusion, said, Broadcast.judge, rejection]
    | nonceTooLow =>
      refine Or.inr (Or.inl ⟨⟨r, said, Or.inl rejection⟩, lost (by simp [rejection]), ?_⟩)
      simp [conclusion, said, Broadcast.judge, rejection]
    | insufficientFunds =>
      refine Or.inr (Or.inl ⟨⟨r, said, Or.inr rejection⟩, lost (by simp [rejection]), ?_⟩)
      simp [conclusion, said, Broadcast.judge, rejection]
    | other =>
      refine Or.inr (Or.inr ⟨?_, ?_⟩)
      · rintro (⟨hash, accepted⟩ | ⟨r', refused, hopeless⟩)
        · exact lost (by simp [rejection]) hash accepted
        · obtain rfl := Verdict.refused.inj (said.symm.trans refused)
          simp [rejection] at hopeless
      · simp [conclusion, said, Broadcast.judge, rejection]

-- A node that accepts a transaction under two hashes gave one of them.
theorem Accepted.unique {hash other : Hash} (accepted : x.Accepted raw hash)
    (again : x.Accepted raw other) : hash = other := by
  cases accepted with
  | hash said =>
    cases again with
    | hash value => exact Verdict.value.inj (said.symm.trans value)
    | known refused => simp [said] at refused
  | known said =>
    cases again with
    | hash value => simp [said] at value
    | known => rfl

end Exchange

namespace Session

variable {σ : Type}

/-- What a call answers that hands a transaction over, by how it ends. -/
def handed (p : Provider) : Ending Hash → Except Failure Hash
  | .value hash => .ok hash
  | .refused r => .error (.transaction r.text)
  | .exhausted => .error (p.exhausted "send raw transaction")

theorem sendRaw_eq (endpoints : Endpoints σ) (raw : Bytes) (s : Session σ) :
    s.sendRaw endpoints raw =
      (handed s.provider (s.walk endpoints (.sendRaw raw) (Rpc.fixed? 32)).1,
        (s.walk endpoints (.sendRaw raw) (Rpc.fixed? 32)).2) := by
  unfold sendRaw
  cases ended : (s.walk endpoints (.sendRaw raw) (Rpc.fixed? 32)).1 <;> simp [ended, handed]

-- The end of a call gives the conclusion from its last exchange.
theorem handed_ending (p : Provider) (x : Exchange) :
    handed p (x.verdict (Rpc.fixed? 32)).ending = x.conclusion p.chain := by
  unfold Exchange.conclusion Exchange.handover
  cases x.verdict (Rpc.fixed? 32) <;> rfl

end Session

end Provider

namespace Network

open Provider

variable {σ : Type} (endpoints : Endpoints σ) (chain : ChainId) (raw : Bytes)

/-- The exchanges of an attempt. -/
abbrev attempt (n : Network σ) : List Exchange :=
  n.talk endpoints chain (.sendRaw raw) (α := Hash) (Rpc.fixed? 32)

/-- What an attempt on a connected chain does: it is a call of the chain's
    provider, and answers what follows from its last exchange. -/
theorem sendRaw_spec {n : Network σ} {p : Provider} (known : n.fleet.provider? chain = some p) :
    ∃ e before x m, Spoken chain (.sendRaw raw) (Rpc.fixed? 32) n p
        (n.attempt endpoints chain raw) e m ∧
      n.attempt endpoints chain raw = before ++ [x] ∧
      (∀ y ∈ before, ¬y.Final raw) ∧
      n.sendRaw endpoints chain raw = (x.conclusion chain, m) := by
  obtain ⟨unknown, -, -⟩ | ⟨p', e, m, known', spoken, on⟩ := on_spec endpoints chain
    (.sendRaw raw) (Rpc.fixed? 32) (Session.sendRaw endpoints raw) Session.handed
    (Session.sendRaw_eq endpoints raw) n
  · exact absurd (known.symm.trans unknown) (by simp)
  · obtain rfl := Option.some.inj (known.symm.trans known')
    obtain ⟨t, talk, -⟩ := spoken.talk
    obtain ⟨before, x, parts, useless, rfl, -, -⟩ := talk.ending
    refine ⟨_, before, x, m, spoken, parts, fun y mem => Exchange.not_final_of_failed (useless y mem),
      ?_⟩
    unfold sendRaw
    rw [on, Session.handed_ending, Fleet.chain_of_provider? known]

section Calm

variable {chain : ChainId} {request : Rpc.Request} {α : Type} {read : Json.Value → Option α}
  {n m k : Network σ} {p : Provider} {xs : List Exchange} {e : Ending α}

/-- The tries that handed a transaction over, the latest first. -/
def handed (n : Network σ) : List Try :=
  n.tries.filter (·.request.handsOver)

/-- Nothing is handed over, and the same chains are connected. -/
structure Calm (n m : Network σ) : Prop where
  /-- The same chains are connected. -/
  connected : ∀ chain, (m.fleet.provider? chain).isSome = (n.fleet.provider? chain).isSome
  /-- Nothing is handed over. -/
  handed : m.handed = n.handed

theorem Calm.refl (n : Network σ) : Calm n n :=
  ⟨fun _ => rfl, rfl⟩

theorem Calm.trans (first : Calm n m) (second : Calm m k) : Calm n k :=
  ⟨fun chain => (second.connected chain).trans (first.connected chain),
    second.handed.trans first.handed⟩

-- A call disconnects no chain.
theorem Spoken.connected (spoken : Spoken chain request read n p xs e m)
    (known : n.fleet.provider? chain = some p) (other : ChainId) :
    (m.fleet.provider? other).isSome = (n.fleet.provider? other).isSome := by
  by_cases here : other = chain
  · obtain ⟨t, -, there⟩ := spoken.talk
    rw [here, there, known]
    rfl
  · rw [spoken.others other here]

-- All tries of a call hand something over, or none does.
theorem Spoken.handed (spoken : Spoken chain request read n p xs e m) :
    m.handed =
      (if request.handsOver then (xs.map Exchange.made).reverse else []) ++ n.handed := by
  obtain ⟨t, talk, -⟩ := spoken.talk
  have same : ∀ made ∈ (xs.map Exchange.made).reverse,
      made.request.handsOver = request.handsOver := by
    intro made mem
    obtain ⟨x, said, rfl⟩ := List.mem_map.mp (List.mem_reverse.mp mem)
    rw [(talk.made x said).2]
  unfold Network.handed
  rw [spoken.tries, List.filter_append]
  congr 1
  by_cases hands : request.handsOver = true
  · rw [if_pos hands, List.filter_eq_self]
    exact fun made mem => (same made mem).trans hands
  · rw [if_neg hands, List.filter_eq_nil_iff]
    exact fun made mem => same made mem ▸ hands

variable (request read) in
-- A call that hands nothing over is calm, whatever it makes of what it heard.
theorem calm_on {β : Type} {call : Session σ → β × Session σ}
    (quiet : request.handsOver = false)
    (asks : ∀ s : Session σ, (call s).2 = (s.walk endpoints request read).2) :
    Calm n (n.on chain call).2 := by
  have deaf : (n.on chain call).2 =
      (n.on chain fun s => ((), (s.walk endpoints request read).2)).2 := by
    unfold on
    cases n.fleet.provider? chain with
    | none => rfl
    | some p => simp only [asks]
  rw [deaf]
  obtain ⟨-, -, on⟩ | ⟨p, e, m, known, spoken, on⟩ := on_spec endpoints chain request read
    (fun s : Session σ => ((), (s.walk endpoints request read).2)) (fun _ _ => ()) (fun _ => rfl) n
  · rw [on]
    exact .refl n
  · rw [on]
    refine ⟨spoken.connected known, ?_⟩
    rw [spoken.handed, quiet]
    rfl

/-- Looking a transaction up is calm. -/
theorem calm_transaction (chain : ChainId) (hash : Hash) (n : Network σ) :
    Calm n (n.transaction endpoints chain hash).2 := by
  rw [snd_transaction]
  refine calm_on endpoints (.transaction hash) Rpc.transaction? rfl fun s => ?_
  unfold Session.transaction
  rcases query : Session.query "get transaction" s.provider
      (s.walk endpoints (.transaction hash) Rpc.transaction?).1 with f | (_ | t) <;>
    simp [query]

/-- Asking for a nonce is calm. -/
theorem calm_pendingCount (chain : ChainId) (account : Address) (n : Network σ) :
    Calm n (n.pendingCount endpoints chain account).2 := by
  rw [snd_pendingCount]
  refine calm_on endpoints (.pendingCount account) (Rpc.quantity? 32) rfl fun s => ?_
  unfold Session.pendingCount
  rcases query : Session.query "get pending nonce" s.provider
      (s.walk endpoints (.pendingCount account) (Rpc.quantity? 32)).1 with f | n <;>
    simp [query]

/-- Asking chains whether they can be reached is calm, and notes nothing. -/
theorem calm_probe (chains : List ChainId) (s : Surroundings (Network σ)) :
    Calm s.world (probeAll endpoints chains s).2.world ∧
      (probeAll endpoints chains s).2.acts = s.acts := by
  induction chains generalizing s with
  | nil => exact ⟨.refl _, rfl⟩
  | cons chain rest ih =>
    have calm : Calm s.world (s.world.on chain (Session.healthy endpoints)).2 :=
      calm_on endpoints .blockNumber (Rpc.quantity? 8) rfl fun s => rfl
    unfold probeAll
    dsimp only
    generalize reached : Surroundings.measure _ _ = t
    have world : t.world = (s.world.on chain (Session.healthy endpoints)).2 := by
      rw [← reached]
      rfl
    have acts : t.acts = s.acts := by
      rw [← reached]
      rfl
    exact ⟨calm.trans (world ▸ (ih t).1), (ih t).2.trans acts⟩

end Calm

end Network

end TxRelay
