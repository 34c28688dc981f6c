import TxRelay.Proofs.Provider.Talk

/-!
# Around the Circle

A call alone asks one endpoint after another, from the active one around the circle,
until one of them is of use. Which one that is, what the call makes of it and where
it leaves the provider follows from what the endpoints reply when they are asked in
this order. `Session.Walks` says so for an operation, and it holds of all of them.

What was done with a provider before decides which endpoint is the active one, and
nothing else. Endpoints stay those of the settings, in their order, whether calls
came one after another or overlapped.

## Main definitions

* `Provider.turned`: A provider after the next endpoint became active so often.
* `Provider.Session.reply`: What an endpoint replies when its turn comes.
* `Provider.Session.ended`: What a call leaves that ended with an endpoint.
* `Provider.Session.Walks`: What an operation does.
* `Provider.Deed`, `Provider.Session.play`: What may be done with a provider.

## Theorems

* `Provider.repeat_failover`: Failovers go around the circle.
* `Provider.Session.walk_eq`: A call ends with the first endpoint that is of use.
* `Provider.Session.walk_exhausted`: A call alone leaves out none.
* `Provider.calls_around_circle`: Every operation, after everything that may be done
  before.
-/

namespace TxRelay

namespace Provider

/-- The provider after the next endpoint became active so often. -/
def turned (p : Provider) (k : Nat) : Provider :=
  { p with
    active := around p.urls.length p.active k
    active_lt := Nat.mod_lt _ (Nat.zero_lt_of_lt p.active_lt) }

theorem turned_zero (p : Provider) : p.turned 0 = p := by
  unfold turned
  congr 1
  exact Nat.mod_eq_of_lt p.active_lt

theorem failover_turned (p : Provider) (k : Nat) : (p.turned k).failover = p.turned (k + 1) := by
  unfold turned failover
  congr 1
  exact Nat.mod_add_mod _ _ _

theorem failover_eq (p : Provider) : p.failover = p.turned 1 := by
  rw [← failover_turned, turned_zero]

theorem turned_turned (p : Provider) (j k : Nat) : (p.turned j).turned k = p.turned (j + k) := by
  unfold turned
  congr 1
  exact (Nat.mod_add_mod _ _ _).trans (congrArg (· % p.urls.length) (Nat.add_assoc _ _ _))

-- All that a call leaves of a provider is how far it was turned.
theorem Talk.turned {α : Type} {request : Rpc.Request} {read : Json.Value → Option α}
    {p t : Provider} {left : Nat} {xs : List Exchange} {e : Ending α}
    (talk : Talk request read p left xs e t) : ∃ k, t = p.turned k := by
  induction talk with
  | @last p left reply ends => exact ⟨0, p.turned_zero.symm⟩
  | @next p t left reply xs e failed rest ih =>
    obtain ⟨k, rfl⟩ := ih
    exact ⟨1 + k, by rw [failover_eq, turned_turned]⟩

/-- Failovers go around the circle. -/
theorem repeat_failover (p : Provider) (k : Nat) : Nat.repeat failover k p = p.turned k := by
  induction k with
  | zero => exact p.turned_zero.symm
  | succ k ih => rw [Nat.repeat, ih, failover_turned]

/-- What is made of the end of a call. -/
def Ending.report {α β : Type} (found : α → β) (refused : Rpc.Refusal → β) (lost : β) :
    Ending α → β
  | .value a => found a
  | .refused r => refused r
  | .exhausted => lost

namespace Session

variable {σ α β : Type}

section Circle

variable (endpoints : Endpoints σ) (request : Rpc.Request) (s : Session σ)

/-- The endpoints after so many of them were asked, around the circle. -/
def worldAfter : Nat → σ
  | 0 => s.world
  | i + 1 => (endpoints (s.provider.turned i).url request (worldAfter i)).2

/-- What the endpoint so many places after the active one replies, when it is asked
    after those before it. -/
def reply (i : Nat) : Rpc.Reply :=
  (endpoints (s.provider.turned i).url request (s.worldAfter endpoints request i)).1

/-- The requests to so many endpoints around the circle, the latest first. -/
def triesOf (n : Nat) : List Try :=
  ((List.range n).map fun i =>
    ⟨s.provider.chain, around s.provider.urls.length s.provider.active i, request⟩).reverse

/-- What a call leaves that was handed on so often. -/
def passedOn (i : Nat) : Session σ :=
  ⟨s.provider.turned i, s.worldAfter endpoints request i, s.triesOf request i ++ s.tries⟩

/-- What a call leaves that ended with the endpoint so many places after the active
    one. That endpoint is active. -/
def ended (i : Nat) : Session σ :=
  ⟨s.provider.turned i, s.worldAfter endpoints request (i + 1),
    s.triesOf request (i + 1) ++ s.tries⟩

theorem passedOn_zero : s.passedOn endpoints request 0 = s := by
  unfold passedOn
  rw [turned_zero]
  rfl

theorem ask_passedOn (i : Nat) :
    (s.passedOn endpoints request i).ask endpoints request =
      (s.reply endpoints request i, s.ended endpoints request i) := by
  unfold ended triesOf
  rw [List.range_succ, List.map_append, List.reverse_append]
  rfl

variable {endpoints request s} {read : Json.Value → Option α} {j : Nat}

-- A call is handed on as long as endpoints are of no use.
theorem walk_eq_passedOn (few : j < s.provider.urls.length)
    (failed : ∀ i, i < j → Verdict.ofReply read (s.reply endpoints request i) = .failed) :
    s.walk endpoints request read =
      (s.passedOn endpoints request j).walkFrom endpoints request read
        (s.provider.urls.length - 1 - j) := by
  induction j with
  | zero =>
    rw [passedOn_zero]
    rfl
  | succ j ih =>
    have useless : Verdict.ofReply read
        ((s.passedOn endpoints request j).ask endpoints request).1 = .failed := by
      rw [ask_passedOn]
      exact failed j (Nat.lt_succ_self j)
    rw [ih (Nat.lt_of_succ_lt few) fun i less => failed i (Nat.lt_succ_of_lt less),
      show s.provider.urls.length - 1 - j = s.provider.urls.length - 1 - (j + 1) + 1 by omega,
      walkFrom_next useless, ask_passedOn]
    unfold passedOn ended
    dsimp only
    rw [failover_turned]

/-- A call ends with the first endpoint that is of use, or with the last one. -/
theorem walk_eq (few : j < s.provider.urls.length)
    (failed : ∀ i, i < j → Verdict.ofReply read (s.reply endpoints request i) = .failed)
    (last : j + 1 = s.provider.urls.length ∨
      Verdict.ofReply read (s.reply endpoints request j) ≠ .failed) :
    s.walk endpoints request read =
      ((Verdict.ofReply read (s.reply endpoints request j)).ending,
        s.ended endpoints request j) := by
  rw [walk_eq_passedOn few failed, walkFrom_last, ask_passedOn]
  rw [ask_passedOn]
  exact last.imp (by omega) id

variable (endpoints request s read) in
-- Of so many endpoints, one is the first that is of use, or none is of use.
theorem failed_or_first (n : Nat) :
    (∀ i, i < n → Verdict.ofReply read (s.reply endpoints request i) = .failed) ∨
      ∃ j, j < n ∧ (∀ i, i < j → Verdict.ofReply read (s.reply endpoints request i) = .failed) ∧
        Verdict.ofReply read (s.reply endpoints request j) ≠ .failed := by
  induction n with
  | zero => exact Or.inl fun i none => absurd none (Nat.not_lt_zero i)
  | succ n ih =>
    rcases ih with failed | ⟨j, few, before, useful⟩
    · by_cases next : Verdict.ofReply read (s.reply endpoints request n) = .failed
      · refine Or.inl fun i less => ?_
        rcases Nat.lt_succ_iff_lt_or_eq.mp less with earlier | rfl
        · exact failed i earlier
        · exact next
      · exact Or.inr ⟨n, Nat.lt_succ_self n, failed, next⟩
    · exact Or.inr ⟨j, Nat.lt_succ_of_lt few, before, useful⟩

/-- A call alone gives up only after a try at each of the endpoints, and tries none of
    them twice. -/
theorem walk_exhausted (gone : (s.walk endpoints request read).1 = .exhausted) :
    ∃ new : List Try, (s.walk endpoints request read).2.tries = new ++ s.tries ∧
      new.length = s.provider.urls.length ∧
      ∀ i, i < s.provider.urls.length → ∃ t ∈ new, t.target = i := by
  have some : s.provider.urls.length - 1 + 1 = s.provider.urls.length :=
    Nat.sub_add_cancel (Nat.zero_lt_of_lt s.provider.active_lt)
  rcases failed_or_first endpoints request s read s.provider.urls.length with
    failed | ⟨j, few, before, useful⟩
  · rw [walk_eq (j := s.provider.urls.length - 1) (by omega)
      (fun i less => failed i (by omega)) (Or.inl some)]
    unfold ended
    rw [some]
    refine ⟨s.triesOf request s.provider.urls.length, rfl, by simp [triesOf], fun i here => ?_⟩
    -- A whole circle leaves out nobody.
    rcases List.mem_map.mp (mem_circle s.provider.active_lt here) with ⟨k, mem, place⟩
    exact ⟨_, List.mem_reverse.mpr (List.mem_map.mpr ⟨k, mem, rfl⟩), place⟩
  · rw [walk_eq few before (Or.inr useful)] at gone
    cases verdict : Verdict.ofReply read (s.reply endpoints request j) with
    | value a => simp [verdict, Verdict.ending] at gone
    | refused r => simp [verdict, Verdict.ending] at gone
    | failed => exact absurd verdict useful

end Circle

/-- What an operation does, of one request whose results it reads, and what it makes
    of a result, of a refusal and of the failure of all endpoints. -/
structure Walks (endpoints : Endpoints σ) (request : Rpc.Request) (read : Json.Value → Option α)
    (call : Session σ → β × Session σ) (found : α → β) (refused : Rpc.Refusal → β) (lost : β)
    (s : Session σ) : Prop where
  /-- The first endpoint that is of use gives a result. -/
  value : ∀ j a, j < s.provider.urls.length →
    (∀ i, i < j → Verdict.ofReply read (s.reply endpoints request i) = .failed) →
    Verdict.ofReply read (s.reply endpoints request j) = .value a →
      call s = (found a, s.ended endpoints request j)
  /-- It refuses. -/
  rejected : ∀ j r, j < s.provider.urls.length →
    (∀ i, i < j → Verdict.ofReply read (s.reply endpoints request i) = .failed) →
    Verdict.ofReply read (s.reply endpoints request j) = .refused r →
      call s = (refused r, s.ended endpoints request j)
  /-- No endpoint is of use. -/
  failed : (∀ i, i < s.provider.urls.length →
      Verdict.ofReply read (s.reply endpoints request i) = .failed) →
    call s = (lost, s.ended endpoints request (s.provider.urls.length - 1))

-- An operation does what the call does that it makes.
theorem walks {endpoints : Endpoints σ} {request : Rpc.Request} {read : Json.Value → Option α}
    {call : Session σ → β × Session σ} {found : α → β} {refused : Rpc.Refusal → β} {lost : β}
    {s : Session σ}
    (asks : call s = ((s.walk endpoints request read).1.report found refused lost,
      (s.walk endpoints request read).2)) :
    Walks endpoints request read call found refused lost s := by
  refine ⟨fun j a few failed value => ?_, fun j r few failed refused => ?_, fun failed => ?_⟩
  · rw [asks, walk_eq few failed (Or.inr (by simp [value])), value]
    rfl
  · rw [asks, walk_eq few failed (Or.inr (by simp [refused])), refused]
    rfl
  · have some : s.provider.urls.length - 1 < s.provider.urls.length :=
      Nat.sub_one_lt_of_lt s.provider.active_lt
    rw [asks, walk_eq some (fun i less => failed i (Nat.lt_trans less some)) (Or.inl (by omega)),
      failed _ some]
    rfl

end Session

/-- Something that may be done with a provider. -/
inductive Deed (σ : Type) where
  /-- The next endpoint is made active. -/
  | failover
  /-- The chain is asked for its latest block, and nothing else goes on meanwhile. -/
  | blockNumber
  /-- It is asked for an account's nonce. -/
  | pendingCount (account : Address)
  /-- It is asked for a transaction. -/
  | transaction (hash : Hash)
  /-- It is handed a transaction. -/
  | sendRaw (raw : Bytes)
  /-- It is asked whether it can be reached. -/
  | healthy
  /-- One of several calls that overlap hears from its endpoint. -/
  | hear (call : Call) (verdict : Verdict Unit)
  /-- The endpoints change by themselves. -/
  | drift (world : σ)

namespace Session

variable {σ : Type} (endpoints : Endpoints σ)

/-- Does something with the provider of a session. -/
def perform (s : Session σ) : Deed σ → Session σ
  | .failover => { s with provider := s.provider.failover }
  | .blockNumber => (s.blockNumber endpoints).2
  | .pendingCount account => (s.pendingCount endpoints account).2
  | .transaction hash => (s.transaction endpoints hash).2
  | .sendRaw raw => (s.sendRaw endpoints raw).2
  | .healthy => (s.healthy endpoints).2
  | .hear call verdict => { s with provider := (Provider.hear verdict call s.provider).2 }
  | .drift world => { s with world }

/-- Does several things in order. -/
def play (deeds : List (Deed σ)) (s : Session σ) : Session σ :=
  deeds.foldl (perform endpoints) s

variable {endpoints} {s : Session σ} {chain : ChainId}

section Operations

theorem blockNumber_walks (here : s.provider.chain = chain) :
    Walks endpoints .blockNumber (Rpc.quantity? 8) (blockNumber endpoints) .ok
      (fun r => .error (.chainConnection chain r.text))
      (.error (.chainConnection chain ("All providers failed to " ++ "get block number"))) s := by
  subst here
  refine walks ?_
  unfold blockNumber
  dsimp only
  cases (s.walk endpoints .blockNumber (Rpc.quantity? 8)).1 <;> rfl

theorem healthy_walks :
    Walks endpoints .blockNumber (Rpc.quantity? 8) (healthy endpoints) (fun _ => true)
      (fun _ => false) false s := by
  refine walks ?_
  unfold healthy blockNumber
  dsimp only
  cases (s.walk endpoints .blockNumber (Rpc.quantity? 8)).1 <;> rfl

theorem pendingCount_walks (here : s.provider.chain = chain) (account : Address) :
    Walks endpoints (.pendingCount account) (Rpc.quantity? 32) (pendingCount endpoints account)
      (fun n => if n < UInt64.size then .value n.toUInt64 else .crash castText)
      (fun r => .failure (.chainConnection chain r.text))
      (.failure (.chainConnection chain ("All providers failed to " ++ "get pending nonce")))
      s := by
  subst here
  refine walks ?_
  unfold pendingCount
  dsimp only
  cases (s.walk endpoints (.pendingCount account) (Rpc.quantity? 32)).1 <;> rfl

theorem transaction_walks (here : s.provider.chain = chain) (hash : Hash) :
    Walks endpoints (.transaction hash) Rpc.transaction? (transaction endpoints hash)
      (fun | some t => .ok t | none => .error (.transactionNotFound hash chain))
      (fun r => .error (.chainConnection chain r.text))
      (.error (.chainConnection chain ("All providers failed to " ++ "get transaction"))) s := by
  subst here
  refine walks ?_
  unfold transaction
  dsimp only
  rcases (s.walk endpoints (.transaction hash) Rpc.transaction?).1 with (_ | _) | _ | _ <;> rfl

theorem sendRaw_walks (here : s.provider.chain = chain) (raw : Bytes) :
    Walks endpoints (.sendRaw raw) (Rpc.fixed? 32) (sendRaw endpoints raw) .ok
      (fun r => .error (.transaction r.text))
      (.error (.chainConnection chain ("All providers failed to " ++ "send raw transaction")))
      s := by
  subst here
  refine walks ?_
  unfold sendRaw
  dsimp only
  cases (s.walk endpoints (.sendRaw raw) (Rpc.fixed? 32)).1 <;> rfl

end Operations

variable (endpoints s) in
-- Whatever is done with a provider, it is turned and nothing else.
theorem perform_turned (deed : Deed σ) :
    ∃ k, (s.perform endpoints deed).provider = s.provider.turned k := by
  have walked {α : Type} (request : Rpc.Request) (read : Json.Value → Option α) :
      ∃ k, (s.walk endpoints request read).2.provider = s.provider.turned k :=
    (walk_talk endpoints request read s).1.turned
  have still : ∃ k, s.provider = s.provider.turned k := ⟨0, s.provider.turned_zero.symm⟩
  have next : ∃ k, s.provider.failover = s.provider.turned k := ⟨1, s.provider.failover_eq⟩
  cases deed with
  | failover => exact next
  | blockNumber => exact walked .blockNumber (Rpc.quantity? 8)
  | pendingCount account =>
    unfold perform pendingCount
    dsimp only
    split <;> exact walked (.pendingCount account) (Rpc.quantity? 32)
  | transaction hash =>
    unfold perform transaction
    dsimp only
    split <;> exact walked (.transaction hash) Rpc.transaction?
  | sendRaw raw =>
    unfold perform sendRaw
    dsimp only
    split <;> exact walked (.sendRaw raw) (Rpc.fixed? 32)
  | healthy => exact walked .blockNumber (Rpc.quantity? 8)
  | hear call verdict =>
    unfold perform Provider.hear
    dsimp only
    split
    · exact still
    · exact still
    · split
      · exact still
      · exact next
  | drift world => exact still

variable (endpoints s) in
-- So it stays with its chain and its endpoints.
theorem perform_frame (deed : Deed σ) :
    (s.perform endpoints deed).provider.chain = s.provider.chain ∧
      (s.perform endpoints deed).provider.urls = s.provider.urls := by
  obtain ⟨k, turned⟩ := perform_turned endpoints s deed
  rw [turned]
  exact ⟨rfl, rfl⟩

theorem play_frame (deeds : List (Deed σ)) : ∀ s : Session σ,
    (s.play endpoints deeds).provider.chain = s.provider.chain ∧
      (s.play endpoints deeds).provider.urls = s.provider.urls := by
  induction deeds with
  | nil => exact fun s => ⟨rfl, rfl⟩
  | cons deed deeds ih =>
    intro s
    have first := perform_frame endpoints s deed
    exact ⟨(ih _).1.trans first.1, (ih _).2.trans first.2⟩

end Session

/-- What a provider of settings does, whatever was done with it before. Its endpoints are
    the texts that are URLs, in their order, of which there has to be one. From the active
    one failovers go around the circle, and so does each operation: it asks the endpoints
    up to the first that is of use, each once, and that one is active then, whether it
    gives a result or refuses. An operation that no endpoint is of use to asks all of
    them, and leaves the last one active. -/
theorem calls_around_circle (c : ChainSettings) :
    let urls := c.urls.filterMap Url.parse?
    let refused : Rpc.Refusal → Failure := fun r => .chainConnection c.chain r.text
    let lost : String → Failure := fun operation =>
      .chainConnection c.chain ("All providers failed to " ++ operation)
    (urls = [] ∧ ofSettings c = .error (.chainConnection c.chain "No valid RPC providers")) ∨
    ∃ p, ofSettings c = .ok p ∧ p.active = 0 ∧
      ∀ (σ : Type) (endpoints : Endpoints σ) (world : σ) (deeds : List (Deed σ)),
        let s := Session.play endpoints deeds ⟨p, world, []⟩
        s.provider.chain = c.chain ∧ s.provider.urls = urls ∧
        (∀ k, (Nat.repeat failover k s.provider).active =
            (s.provider.active + k) % urls.length ∧
          urls[(s.provider.active + k) % urls.length]? =
            some (Nat.repeat failover k s.provider).url) ∧
        s.Walks endpoints .blockNumber (Rpc.quantity? 8) (Session.blockNumber endpoints)
          .ok (fun r => .error (refused r)) (.error (lost "get block number")) ∧
        s.Walks endpoints .blockNumber (Rpc.quantity? 8) (Session.healthy endpoints)
          (fun _ => true) (fun _ => false) false ∧
        (∀ account, s.Walks endpoints (.pendingCount account) (Rpc.quantity? 32)
          (Session.pendingCount endpoints account)
          (fun n => if n < UInt64.size then .value n.toUInt64 else .crash castText)
          (fun r => .failure (refused r)) (.failure (lost "get pending nonce"))) ∧
        (∀ hash, s.Walks endpoints (.transaction hash) Rpc.transaction?
          (Session.transaction endpoints hash)
          (fun | some t => .ok t | none => .error (.transactionNotFound hash c.chain))
          (fun r => .error (refused r)) (.error (lost "get transaction"))) ∧
        ∀ raw, s.Walks endpoints (.sendRaw raw) (Rpc.fixed? 32) (Session.sendRaw endpoints raw)
          .ok (fun r => .error (.transaction r.text)) (.error (lost "send raw transaction")) := by
  intro urls refused lost
  by_cases some : 0 < urls.length
  · refine Or.inr ⟨⟨c.chain, c.name, urls, 0, some⟩, dif_pos some, rfl, ?_⟩
    intro σ endpoints world deeds s
    obtain ⟨here, same⟩ : s.provider.chain = c.chain ∧ s.provider.urls = urls :=
      Session.play_frame deeds _
    refine ⟨here, same, fun k => ?_, Session.blockNumber_walks here, Session.healthy_walks,
      Session.pendingCount_walks here, Session.transaction_walks here,
      Session.sendRaw_walks here⟩
    rw [repeat_failover, ← same]
    exact ⟨rfl, List.getElem?_eq_getElem (s.provider.turned k).active_lt⟩
  · exact Or.inl ⟨List.eq_nil_of_length_eq_zero (Nat.eq_zero_of_not_pos some), dif_neg some⟩

end Provider

end TxRelay
