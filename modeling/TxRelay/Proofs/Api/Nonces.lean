import TxRelay.Proofs.Api.Account
import TxRelay.Proofs.Api.Daybook
import TxRelay.Proofs.Bytes.Spelling

/-!
# Nonces of a Service

What callers see of nonces, in every run of a service: any requests, well or badly
formed, in any order, while chains take their time, callers leave and transactions are
submitted and confirmed.

The requests that were answered about an account on a chain are told apart by what they
are about, and not by how they spell it. Each of them does to the nonce of the account
what one call does, and nothing else touches that nonce (`Turn.accounts`). So the visits
of every account are kept (`Kept`), and what is known of kept visits is known of all.

## Main definitions

* `Api.Visit.about`, `Daybook.visitsOf`: The visits about an account on a chain.
* `Api.Visit.Faithful`: What an answer says of nonces is so.
* `Api.Daybook.Lawful`: What holds of the answers that were given.
* `Api.Daybook.Attentive`: What comes of whatever happens next.

## Theorems

* `Api.Daybook.Turn.accounts`: What a turn does to the nonce of an account.
* `Api.Daybook.Turn.tables`: What a turn does to the tables.
* `Api.nonces_answered_in_order`: In every run, nonces are handed out without a gap.
-/

namespace TxRelay

namespace Api

open Nonce (Call Ended Next Table)

variable {σ : Type}

namespace Visit

/-- Whether a visit is about an account on a chain. -/
def about (chain : ChainId) (account : Address) (v : Visit) : Bool :=
  v.request.errand? = some (chain, .allocate account) ∨
    v.request.errand? = some (chain, .reset account)

/-- What the answer to a request says of nonces is so. -/
structure Faithful (v : Visit) : Prop where
  /-- A nonce is handed out with status 200, by an answer that names the chain and the
      account, and only to a request for it. -/
  nonce : ∀ n, v.nonce? = some n → ∃ chain account,
    v.request.errand? = some (chain, .allocate account) ∧
      v.reaction = .now (.json 200 [("chain_id", .nat chain.toNat),
        ("account", .str (Hex.encodePrefixed account.toList)), ("nonce", .nat n)])
  /-- An answer with status 200 to such a request hands a nonce out. -/
  success : ∀ chain account a, v.request.errand? = some (chain, .allocate account) →
    v.reaction = .now a → a.status = 200 → v.nonce?.isSome = true
  /-- Only a request that an account be forgotten is answered with status 204. -/
  forgets : v.forgets = true → ∃ chain account,
    v.request.errand? = some (chain, .reset account) ∧ v.reaction = .now (.bare 204)
  /-- A chain is asked for nothing but the pending count of the account. -/
  made : ∀ x ∈ v.said, ∃ account,
    v.request.errand? = some (x.made.chain, .allocate account) ∧
      x.made.request = .pendingCount account
  /-- The count that the chain named is what it said last, and it is handed out. -/
  seed : ∀ p, v.seed? = some p → v.nonce? = some p ∧
    ∃ before x, v.said = before ++ [x] ∧ x.verdict (Rpc.quantity? 32) = .value p

section About

variable {v : Visit} {chain there : ChainId} {account whom : Address} {e : Ended}
  {c d : Option UInt64}

-- A visit on an errand is about one account on one chain.
theorem about_iff {call : Call} (errand : v.request.errand? = some (there, call))
    (calls : call = .allocate whom ∨ call = .reset whom) :
    v.about chain account = true ↔ there = chain ∧ whom = account := by
  obtain rfl | rfl := calls <;> simp [about, errand]

-- A visit on no errand is about nobody.
theorem about_of_aimless (aimless : v.request.errand? = none) : v.about chain account = false := by
  simp [about, aimless]

/-- What is told about a call is so. -/
theorem Tells.faithful (tells : v.Tells chain e) (next : Next account c e d) : v.Faithful := by
  have agrees := tells.agrees next
  have errand := tells.errand
  have reaction := tells.reaction
  refine ⟨fun n given => ?_, fun there whom a asks now success => ?_, fun goes => ?_,
    fun x mem => ?_, fun p named => ?_⟩
  · rw [agrees.nonce, Option.map_eq_some_iff] at given
    obtain ⟨m, given, rfl⟩ := given
    cases next with
    | seeds call reply result | counts room call reply result =>
      simp only [Ended.nonce?, result, Option.some.injEq] at given
      subst given
      rw [call] at errand reaction
      rw [result] at reaction
      exact ⟨chain, account, errand, reaction⟩
    | _ => simp [Ended.nonce?, *] at given
  · -- A failure is told with another status.
    cases next with
    | seeds call reply result | counts room call reply result =>
      simp [agrees.nonce, Ended.nonce?, result]
    | @fails _ f call reply result =>
      rw [call, result] at reaction
      have same : a = .ofFailure f := Reaction.now.inj (now.symm.trans reaction)
      exact absurd (same ▸ success) (Answer.status_ofFailure_ne f)
    | crashes call reply result | full full call reply result =>
      rw [call, result] at reaction
      exact absurd (now.symm.trans reaction) (by simp [Service.tell, Service.answerNonce])
    | forgets call reply result | absent call reply result =>
      rw [call, asks] at errand
      simp at errand
  · rw [agrees.forgets] at goes
    cases next with
    | forgets call reply result =>
      rw [call] at errand reaction
      rw [result] at reaction
      exact ⟨chain, account, errand, reaction⟩
    | _ => simp_all [Ended.forgets]
  · obtain ⟨whom, call, there, asks⟩ := tells.made x mem
    exact ⟨whom, by rw [there, ← call]; exact errand, asks⟩
  · rw [agrees.seed, Option.map_eq_some_iff] at named
    obtain ⟨k, named, rfl⟩ := named
    cases next with
    | seeds call reply result =>
      simp only [Ended.seed?, reply, Option.some.injEq] at named
      subst named
      exact ⟨by simp [agrees.nonce, Ended.nonce?, result], tells.asked _ reply⟩
    | _ => simp [Ended.seed?, *] at named

-- An answer that says nothing of nonces is faithful.
theorem faithful_of_silent (silent : v.nonce? = none) (stays : v.forgets = false)
    (unasked : v.said = []) (other : ∀ chain account a,
      v.request.errand? = some (chain, .allocate account) → v.reaction = .now a →
        a.status ≠ 200) : v.Faithful where
  nonce n given := absurd (silent.symm.trans given) (by simp)
  success chain account a asks now success := absurd success (other chain account a asks now)
  forgets goes := absurd (stays.symm.trans goes) (by simp)
  made x mem := absurd (unasked ▸ mem) List.not_mem_nil
  seed p named := absurd ((seed?_of_silent silent).symm.trans named) (by simp)

end About

end Visit

namespace Daybook

/-- The visits about an account on a chain, the earliest first. -/
def visitsOf (chain : ChainId) (account : Address) (d : Daybook σ) : List Visit :=
  d.visits.filter (Visit.about chain account)

section Turns

variable {c : Setup σ} {d d' : Daybook σ} {chain : ChainId} {account : Address} {v : Visit}

-- One more visit is about the account, or it is not.
theorem visitsOf_snoc (visits : d'.visits = d.visits ++ [v]) (mine : v.about chain account = true) :
    d'.visitsOf chain account = d.visitsOf chain account ++ [v] := by
  simp [visitsOf, visits, mine]

theorem visitsOf_other (visits : d'.visits = d.visits ++ [v])
    (other : v.about chain account = false) :
    d'.visitsOf chain account = d.visitsOf chain account := by
  simp [visitsOf, visits, other]

-- A visit to a chain without a tracker does what a call does that fails.
theorem next_away {call : Call} (errand : v.request.errand? = some (chain, call))
    (reaction : v.reaction = .now (.ofFailure (.chainNotFound chain))) (unasked : v.said = [])
    (calls : call = .allocate account ∨ call = .reset account) :
    ∃ e, Next account none e none ∧ v.Agrees e := by
  have nonce : v.nonce? = none :=
    (congrArg Reaction.nonce? reaction).trans (Answer.nonce?_ofFailure _)
  have forgets : v.forgets = false := congrArg Reaction.forgets reaction
  have seed : v.seed? = none := Visit.seed?_of_unasked unasked
  obtain rfl | rfl := calls
  · exact ⟨⟨0, 0, .allocate account, some (.failure (.chainNotFound chain)),
      .failed (.chainNotFound chain)⟩, .fails rfl rfl rfl, nonce, forgets, seed⟩
  · exact ⟨⟨0, 0, .reset account, none, .removed false⟩, .absent rfl rfl rfl, nonce, forgets,
      seed⟩

/-- What a turn does to the nonce of an account: nothing, or what a call does whose
    caller is told. -/
theorem Turn.accounts (turn : Turn c d d') (chain : ChainId) (account : Address) :
    (d'.visitsOf chain account = d.visitsOf chain account ∧
      d'.service.last? chain account = d.service.last? chain account) ∨
    ∃ v e, d'.visitsOf chain account = d.visitsOf chain account ++ [v] ∧
      Next account (d.service.last? chain account) e (d'.service.last? chain account) ∧
      v.Agrees e := by
  cases turn with
  | quiet nonces visits asking =>
    exact Or.inl ⟨by rw [visitsOf, visits]; rfl, Service.last?_congr nonces chain account⟩
  | asks errand free tracked unknown after =>
    subst after
    exact Or.inl ⟨rfl, rfl⟩
  | @aside v aimless nonces visits asking silent stays unasked =>
    exact Or.inl ⟨visitsOf_other visits (Visit.about_of_aimless aimless),
      Service.last?_congr nonces chain account⟩
  | @away v there call errand untracked nonces visits asking reaction unasked =>
    rw [Service.last?_congr nonces]
    cases mine : v.about chain account with
    | false => exact Or.inl ⟨visitsOf_other visits mine, rfl⟩
    | true =>
      simp only [Visit.about, errand, Option.some.injEq, Prod.mk.injEq, decide_eq_true_eq] at mine
      obtain ⟨rfl, calls⟩ : there = chain ∧ (call = .allocate account ∨ call = .reset account) := by
        tauto
      have nothing : d.service.last? there account = none := by
        simp [Service.last?, untracked]
      obtain ⟨e, next, agrees⟩ := next_away errand reaction unasked calls
      rw [nothing]
      exact Or.inr ⟨v, e, visitsOf_snoc visits ((Visit.about_iff errand calls).mpr ⟨rfl, rfl⟩),
        next, agrees⟩
  | @served v there whom e t u calls tracked served visits asking =>
    by_cases mine : there = chain ∧ whom = account
    · obtain ⟨rfl, rfl⟩ := mine
      exact Or.inr ⟨v, e,
        visitsOf_snoc visits ((Visit.about_iff served.tells.errand calls).mpr ⟨rfl, rfl⟩),
        served.last? tracked, served.tells.agrees served.next⟩
    · refine Or.inl ⟨visitsOf_other visits ?_, served.last?_other tracked ?_⟩
      · rw [Bool.eq_false_iff]
        exact fun about => mine ((Visit.about_iff served.tells.errand calls).mp about)
      · rintro ⟨rfl, rfl⟩
        exact mine ⟨rfl, rfl⟩

/-- What a turn does to the tables: nothing, unless somebody is given a nonce or is told
    that an account was forgotten. -/
theorem Turn.tables (turn : Turn c d d') :
    (∀ chain, d'.service.table? chain = d.service.table? chain) ∨
      ∃ v, d'.visits = d.visits ++ [v] ∧ (v.nonce?.isSome = true ∨ v.forgets = true) := by
  cases turn with
  | quiet nonces | aside _ nonces | away _ _ nonces =>
    exact Or.inl (Service.table?_congr nonces)
  | asks errand free tracked unknown after =>
    subst after
    exact Or.inl fun _ => rfl
  | @served v there whom e t u calls tracked served visits asking =>
    by_cases told : v.nonce?.isSome = true ∨ v.forgets = true
    · exact Or.inr ⟨v, visits, told⟩
    · simp only [not_or, Bool.not_eq_true, Option.isSome_eq_false_iff, Option.isNone_iff_eq_none]
        at told
      exact Or.inl (served.unchanged tracked told.1 told.2)

-- No turn makes or drops a table.
theorem Turn.isSome_table? (turn : Turn c d d') (chain : ChainId) :
    (d'.service.table? chain).isSome = (d.service.table? chain).isSome := by
  cases turn with
  | quiet nonces | aside _ nonces | away _ _ nonces => rw [Service.table?_congr nonces]
  | asks errand free tracked unknown after =>
    subst after
    rfl
  | served about tracked served visits asking =>
    rw [served.table? tracked]
    split
    · rename_i here
      rw [here, tracked]
      rfl
    · rfl

-- What is answered is faithful.
theorem Turn.faithful (turn : Turn c d d') (all : ∀ v ∈ d.visits, v.Faithful) :
    ∀ v ∈ d'.visits, v.Faithful := by
  have snoc {v : Visit} (visits : d'.visits = d.visits ++ [v]) (last : v.Faithful) :
      ∀ v ∈ d'.visits, v.Faithful := by
    rw [visits]
    exact List.forall_mem_append.mpr ⟨all, List.forall_mem_singleton.mpr last⟩
  cases turn with
  | quiet nonces visits asking => rwa [visits]
  | asks errand free tracked unknown after =>
    subst after
    exact all
  | aside aimless nonces visits asking silent stays unasked =>
    refine snoc visits (Visit.faithful_of_silent silent stays unasked fun _ _ _ errand => ?_)
    exact absurd (aimless.symm.trans errand) (by simp)
  | @away v there call errand untracked nonces visits asking reaction unasked =>
    refine snoc visits (Visit.faithful_of_silent ?_ ?_ unasked fun _ _ a _ now success => ?_)
    · exact (congrArg Reaction.nonce? reaction).trans (Answer.nonce?_ofFailure _)
    · exact congrArg Reaction.forgets reaction
    · have same : a = .ofFailure (.chainNotFound there) :=
        Reaction.now.inj (now.symm.trans reaction)
      exact absurd (same ▸ success) (Answer.status_ofFailure_ne _)
  | served about tracked served visits asking =>
    exact snoc visits (served.tells.faithful served.next)

end Turns

/-- What holds of the answers that were given. -/
structure Lawful (f : Fleet) (untracked : List ChainId) (d : Daybook σ) : Prop where
  /-- Between two requests at which an account was forgotten, the nonces in the answers
      count up from the one count that the chain named. -/
  upward : ∀ chain account, ∀ piece ∈ (d.visitsOf chain account).splitOnP Visit.forgets,
    Visit.Upward piece
  /-- What answers say of nonces is so. -/
  faithful : ∀ v ∈ d.visits, v.Faithful
  /-- Nonces are kept track of on all chains but some. -/
  tracked : ∀ chain, (d.service.table? chain).isSome = true ↔
    chain ∈ f.connected ∧ chain ∉ untracked

/-- What comes of whatever happens next. -/
structure Attentive (c : Setup σ) (pace : Pace σ) (d : Daybook σ) : Prop where
  /-- A table changes only when somebody is given a nonce or is told that an account was
      forgotten. -/
  tables : ∀ o, (∀ chain, (d.move c pace o).service.table? chain = d.service.table? chain) ∨
    ∃ v, (d.move c pace o).visits = d.visits ++ [v] ∧
      (v.nonce?.isSome = true ∨ v.forgets = true)
  /-- The nonce of an account changes only with an answer about that account. -/
  others : ∀ o chain account,
    (d.move c pace o).visitsOf chain account = d.visitsOf chain account →
      (d.move c pace o).service.last? chain account = d.service.last? chain account
  /-- A request that an account be forgotten is answered with status 204 if a nonce was
      handed out since it was forgotten for the last time, and with status 404 if not. -/
  reset : ∀ r chain account, r.errand? = some (chain, .reset account) →
    (d.service.table? chain).isSome = true → d.asking chain = none →
      ∃ status, (d.move c pace (.move (.request r))).visits =
          d.visits ++ [⟨r, .now (.bare status), []⟩] ∧
        (status = 204 ↔ Visit.AllocatedSince (d.visitsOf chain account)) ∧
        (status = 404 ↔ ¬Visit.AllocatedSince (d.visitsOf chain account))
  /-- A request for a later nonce is answered with one, and no chain is asked. Only after
      the largest nonce it crashes. -/
  counts : ∀ r chain account, r.errand? = some (chain, .allocate account) →
    d.asking chain = none → Visit.AllocatedSince (d.visitsOf chain account) →
      ∃ v, (d.move c pace (.move (.request r))).visits = d.visits ++ [v] ∧ v.request = r ∧
        v.said = [] ∧ (v.nonce?.isSome = true ∨ v.reaction = .crash Nonce.overflowText ∧
          d.service.last? chain account = some Nonce.last)
  /-- For the first nonce of an account the chain is asked. It is tried for nothing but
      what it then says. -/
  asks : ∀ r chain account, r.errand? = some (chain, .allocate account) →
    (d.service.table? chain).isSome = true → d.asking chain = none →
      ¬Visit.AllocatedSince (d.visitsOf chain account) →
        ∃ q, (d.move c pace (.move (.request r))).asking chain = some q ∧ q.request = r ∧
          q.Asks chain ∧ (d.move c pace (.move (.request r))).visits = d.visits ∧
          (d.move c pace (.move (.request r))).service.queue.outside.world.tries =
            (q.said.map Provider.Exchange.made).reverse ++ d.service.queue.outside.world.tries
  /-- When the chain has spoken, the request is answered with what it said. -/
  told : ∀ chain q, d.asking chain = some q →
    ∃ v, (d.move c pace (.arrives chain)).visits = d.visits ++ [v] ∧ v.request = q.request ∧
      v.said = q.said ∧ (∀ n, q.outcome = .value n → v.nonce? = some n.toNat) ∧
        (∀ f, q.outcome = .failure f → v.reaction = .now (.ofFailure f)) ∧
        ∀ text, q.outcome = .crash text → v.reaction = .crash text
  /-- A request to a chain on which nonces are not kept track of is turned away. -/
  away : ∀ r chain call, r.errand? = some (chain, call) → d.service.table? chain = none →
    d.asking chain = none →
      (d.move c pace (.move (.request r))).visits =
        d.visits ++ [⟨r, .now (.ofFailure (.chainNotFound chain)), []⟩]

section Runs

variable {c : Setup σ} {pace : Pace σ} {d : Daybook σ} {r : Request} {chain : ChainId}
  {account : Address}

-- A request whose turn comes and that needs no chain.
theorem visits_begin {call : Call} (errand : r.errand? = some (chain, call))
    (free : d.asking chain = none) (query : d.service.query? r = none) :
    (d.move c pace (.move (.request r))).visits =
      d.visits ++ [⟨r, (d.service.handle c r).1, []⟩] := by
  rw [move_request ((free_of_errand errand).mpr free), begin_take query, take_errand errand]

/-- Whatever happens next is attended to. -/
theorem attentive (held : d.Held)
    (kept : ∀ chain account, Kept account (d.visitsOf chain account)
      (d.service.last? chain account)) : d.Attentive c pace where
  tables o := (move_turn held o).tables
  others o chain account same := by
    have turn : Turn c d (d.move c pace o) := move_turn held o
    rcases turn.accounts chain account with ⟨-, still⟩ | ⟨v, e, more, -⟩
    · exact still
    · exact absurd (congrArg List.length (same.symm.trans more)) (by simp)
  reset r chain account errand tracked free := by
    obtain ⟨t, tracked⟩ := Option.isSome_iff_exists.mp tracked
    have known := (kept chain account).known
    simp only [Service.last?, tracked, Option.bind_some] at known
    refine ⟨if (t.get? account).isSome then 204 else 404, ?_, ?_⟩
    · have query : d.service.query? r = none := by
        simp [Service.query?, errand, tracked, Table.query?]
      rw [visits_begin errand free query, Service.handle_reset errand tracked]
    · rw [← known]
      cases (t.get? account).isSome <;> simp
  counts r chain account errand free given := by
    obtain ⟨n, last⟩ := Option.isSome_iff_exists.mp ((kept chain account).known.mpr given)
    obtain ⟨t, tracked, found⟩ := Option.bind_eq_some_iff.mp last
    have known : t.query? (.allocate account) = none := by simp [Table.query?, found]
    have query : d.service.query? r = none := by
      simp [Service.query?, errand, tracked, known]
    have told := (Service.handle_now (c := c) errand tracked known).1
    refine ⟨_, visits_begin errand free query, rfl, rfl, ?_⟩
    rw [last]
    simp only [Visit.nonce?, told, Service.tell, Table.serve, found, Table.advance]
    split
    · rename_i full
      exact Or.inr ⟨rfl, congrArg some full⟩
    · simp
  asks r chain account errand tracked free fresh := by
    obtain ⟨t, tracked⟩ := Option.isSome_iff_exists.mp tracked
    have unknown : t.get? account = none := by
      have known := (kept chain account).known
      simp only [Service.last?, tracked, Option.bind_some] at known
      simpa [← known] using fresh
    have query : d.service.query? r = some (chain, account) :=
      Service.query?_eq_some.mpr ⟨errand, t, tracked, unknown⟩
    obtain ⟨asks, -, tries⟩ := Service.ask_spec (c := c) (s := d.service) errand
    rw [move_request ((free_of_errand errand).mpr free), begin_query query]
    exact ⟨_, Function.update_self .., rfl, asks, rfl, tries⟩
  told chain q asked := by
    obtain ⟨-, t, tracked, -⟩ := held chain q asked
    have after : d.move c pace (.arrives chain) = d.finish chain q t := by
      show (d.asking chain).elim d _ = _
      rw [asked, Option.elim_some, tracked, Option.elim_some]
    rw [after]
    refine ⟨_, rfl, rfl, rfl, fun n said => ?_, fun f said => ?_, fun text said => ?_⟩
    · simp [Visit.nonce?, Service.note, said, Table.seed]
    · simp [Service.note, said, Table.seed, Service.answerNonce]
    · simp [Service.note, said, Table.seed, Service.answerNonce]
  away r chain call errand untracked free := by
    have query : d.service.query? r = none := by simp [Service.query?, errand, untracked]
    rw [visits_begin errand free query, Service.handle_untracked errand untracked]

-- At first the tables of all chains but some are empty.
theorem table?_fresh (f : Fleet) (world : σ) (untracked : List ChainId) (chain : ChainId) :
    (Service.fresh f world untracked).table? chain =
      if chain ∈ f.connected ∧ chain ∉ untracked then some [] else none := by
  have listed (l : List ChainId) : List.lookup chain (l.map fun n => (n, ([] : Table))) =
      if chain ∈ l then some [] else none := by
    induction l with
    | nil => rfl
    | cons n rest ih =>
      by_cases here : chain = n
      · simp [here]
      · have apart : (chain == n) = false := beq_false_of_ne here
        simp only [List.map_cons, List.lookup_cons, apart, List.mem_cons, here, false_or]
        exact ih
  unfold Service.table? Service.fresh
  dsimp only
  rw [listed]
  simp

/-- Every run is lawful, and attends to whatever happens next. -/
theorem lawful_play (c : Setup σ) (pace : Pace σ) (f : Fleet) (world : σ)
    (untracked : List ChainId) (os : List Occurrence) :
    let d := (fresh f world untracked).play c pace os
    d.Lawful f untracked ∧ d.Attentive c pace := by
  have run := turn_induction c pace
    (P := fun d : Daybook σ =>
      (∀ chain account, Kept account (d.visitsOf chain account) (d.service.last? chain account)) ∧
      (∀ v ∈ d.visits, v.Faithful) ∧
      ∀ chain, (d.service.table? chain).isSome = true ↔ chain ∈ f.connected ∧ chain ∉ untracked)
    ?_ os (fresh f world untracked) (fun _ _ asked => absurd asked (by simp [fresh])) ?_
  · obtain ⟨held, kept, faithful, tracked⟩ := run
    exact ⟨⟨fun chain account => (kept chain account).upward, faithful, tracked⟩,
      attentive held kept⟩
  · rintro d d' - turn ⟨kept, faithful, tracked⟩
    refine ⟨fun chain account => ?_, turn.faithful faithful, fun chain => ?_⟩
    · rcases turn.accounts chain account with ⟨same, still⟩ | ⟨v, e, more, next, agrees⟩
      · rw [same, still]
        exact kept chain account
      · rw [more]
        exact (kept chain account).snoc next agrees
    · rw [turn.isSome_table?]
      exact tracked chain
  · refine ⟨fun chain account => ?_, fun v mem => absurd mem List.not_mem_nil, fun chain => ?_⟩
    · have nothing : (Service.fresh f world untracked).last? chain account = none := by
        unfold Service.last?
        rw [table?_fresh]
        split <;> rfl
      show Kept account [] ((Service.fresh f world untracked).last? chain account)
      rw [nothing]
      exact Kept.nil account
    · show ((Service.fresh f world untracked).table? chain).isSome = true ↔ _
      rw [table?_fresh]
      split <;> simp [*]

-- A second request waits while the chain is asked for the first. The account is then
-- forgotten, which does not happen twice, and a count that cannot be read is no nonce.
example :
    let chain : Provider := ⟨5, "lone", [⟨['h'], none, .segments [], none, none⟩], 0, by decide⟩
    let c : Setup (List Rpc.Reply) :=
      ⟨fun _ _ replies => (replies.headD .unreadable, replies.tail), 1, ⟨1, 1⟩, ⟨1, 1, 1⟩, "",
        fun _ => FixedBytes.ofListPadded 16 [], .rising⟩
    let post : Occurrence := .move (.request ⟨"POST", "/nonces", some "application/json",
      "\x7b\"chain_id\": 5, \"account\": \"0xabcdefabcdefabcdefabcdefabcdefabcdefabcd\"\x7d"⟩)
    let delete : Occurrence := .move (.request ⟨"DELETE",
      "/nonces/5/ABCDEFABCDEFABCDEFABCDEFABCDEFABCDEFABCD", none, ""⟩)
    let d := (Daybook.fresh ⟨[chain]⟩ [.result (.str "0x7"), .unreadable, .result (.str "0x9")]
      []).play c .prompt [post, post, .arrives 5, post, delete, delete, post, .arrives 5, post,
        .arrives 5]
    (d.visits.map fun v => (v.nonce?, v.forgets)) = [(some 7, false), (some 8, false),
      (none, true), (none, false), (none, false), (some 9, false)] := by
  decide +kernel

end Runs

end Daybook

-- However an account is spelled, a request is about it.
theorem Request.errand?_of_spells {r : Request} {chain : ChainId} {account : Address}
    {text : String} (spells : Hex.Spells text account.toList) :
    (r.method = "POST" → Resource.ofPath? r.path = some .nonces →
      r.mediaType.any isJson = true → Body.read "account" r.body = .ok ⟨chain, text⟩ →
        r.errand? = some (chain, .allocate account)) ∧
    ∀ x y number, r.method = "DELETE" → Resource.ofPath? r.path = some (.nonce x y) →
      decodeArgument? x = some number → chainArgument? number = some chain →
        decodeArgument? y = some text → r.errand? = some (chain, .reset account) := by
  have read : readAccount text = .ok account := by
    unfold readAccount
    rw [Hex.readAddress_of_spells spells]
  refine ⟨fun method path json body => ?_, fun x y number method path decoded named spelled => ?_⟩
  · exact errand?_eq_allocate.mpr ⟨path, method, json, text, body, read⟩
  · exact errand?_eq_reset.mpr ⟨x, y, number, text, path, method, decoded, named, spelled, read⟩

/-- Nonces are handed out through a service without a gap, in every run: whatever is
    requested and however it is spelled, whatever chains say and whenever they say it,
    whoever leaves, and whatever the queue does meanwhile.

    The requests about an account on a chain are those whose errand it is. Cut where the
    account was forgotten, the nonces in their answers count up from the only count that
    the chain named. Nothing but such a nonce and a forgotten account changes a table,
    and nothing but an answer about an account changes its nonce. Every run of the
    service itself, whose chains answer at once, is among these runs, with the same
    answers. -/
theorem nonces_answered_in_order (c : Setup σ) (pace : Pace σ) (f : Fleet) (world : σ)
    (untracked : List ChainId) :
    (∀ os, let d := (Daybook.fresh f world untracked).play c pace os
      d.Lawful f untracked ∧ d.Attentive c pace) ∧
    (∀ moves, ∃ os, let d := (Daybook.fresh f world untracked).play c pace os
      d.service = (Service.fresh f world untracked).play c pace moves ∧
        d.reactions = (Service.fresh f world untracked).reactions c pace moves) ∧
    ∀ (r : Request) (chain : ChainId) (account : Address) (text : String),
      Hex.Spells text account.toList →
        (r.method = "POST" → Resource.ofPath? r.path = some .nonces →
          r.mediaType.any isJson = true → Body.read "account" r.body = .ok ⟨chain, text⟩ →
            r.errand? = some (chain, .allocate account)) ∧
        ∀ x y number, r.method = "DELETE" → Resource.ofPath? r.path = some (.nonce x y) →
          decodeArgument? x = some number → chainArgument? number = some chain →
            decodeArgument? y = some text → r.errand? = some (chain, .reset account) := by
  refine ⟨Daybook.lawful_play c pace f world untracked, fun moves => ?_,
    fun r chain account text => Request.errand?_of_spells⟩
  obtain ⟨os, same, told, -⟩ := Daybook.exists_play c pace moves (.fresh f world untracked)
    fun _ => rfl
  exact ⟨os, same, told⟩

end Api

end TxRelay
