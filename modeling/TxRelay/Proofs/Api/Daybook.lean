import Mathlib.Logic.Function.Basic
import TxRelay.Proofs.Api.Visit

/-!
# The Daybook of a Service

A chain may take its time to name a count, and meanwhile other requests come in. The
tracker of the chain is held by the request for whose sake the chain is asked, until
the chain has spoken or the caller has left. The turn of any other request to that
chain does not come before. Nothing else waits: requests to other chains, requests on
no errand, probes and everything that happens to the queue.

A daybook is a service with the queries that are under way, and it keeps every request
that was answered, with its answer, in the order of answering. Requests are judged by
the service itself, except that the two steps of asking a chain are taken apart. Taken
together they are what the service does, so all runs of a service are in its daybooks
(`Daybook.exists_play`).

## Main definitions

* `Api.Occurrence`: One thing that happens.
* `Api.Daybook`: A service with its queries and its visits.
* `Api.Daybook.Held`: The tracker of a chain is held while the chain is asked.
* `Api.Daybook.Turn`: What can happen.

## Theorems

* `Api.Daybook.move_turn`: An occurrence is a turn.
* `Api.Daybook.turn_induction`: What every turn keeps, a run keeps.
* `Api.Daybook.exists_play`: A run of the service is a run of its daybook.
-/

namespace TxRelay

namespace Api

open Nonce (Call Ended Table)

variable {σ : Type}

/-- One thing that happens to a service whose chains take their time. -/
inductive Occurrence where
  /-- A move is made. If it is a request, its turn comes. -/
  | move (m : Move)
  /-- A chain that was asked has spoken. -/
  | arrives (chain : ChainId)
  /-- The caller leaves for whose sake a chain is asked. -/
  | leaves (chain : ChainId)

/-- A service with the queries that are under way, and the requests that were
    answered. -/
structure Daybook (σ : Type) where
  /-- The service. -/
  service : Service σ
  /-- What the chains are asked. -/
  asking : ChainId → Option Query
  /-- The requests that were answered, the earliest first. -/
  visits : List Visit

namespace Service

/-- The request that a move is, with what the service does about it. -/
def reaction? (c : Setup σ) (m : Move) (s : Service σ) : Option (Request × Reaction) :=
  match m with
  | .request r => some (r, (s.handle c r).1)
  | _ => none

/-- The requests among several moves, with what the service does about them. -/
def reactions (c : Setup σ) (pace : Pace σ) : List Move → Service σ → List (Request × Reaction)
  | [], _ => []
  | m :: rest, s => (s.reaction? c m).toList ++ reactions c pace rest (s.move c pace m)

end Service

namespace Daybook

/-- A service of which nothing was asked yet. -/
def fresh (f : Fleet) (world : σ) (untracked : List ChainId) : Daybook σ :=
  ⟨.fresh f world untracked, fun _ => none, []⟩

/-- Whether the turn of a request can come: nobody holds the tracker that it needs. -/
def free (r : Request) (d : Daybook σ) : Bool :=
  r.errand?.all fun x => (d.asking x.1).isNone

/-- Takes a request whose turn has come. If a chain has to be asked, it is asked, and
    the request is answered later. -/
def begin (c : Setup σ) (r : Request) (d : Daybook σ) : Daybook σ :=
  match d.service.query? r with
  | some (chain, account) =>
    let p := d.service.ask c r chain account
    { d with service := p.2, asking := Function.update d.asking chain (some p.1) }
  | none =>
    let p := d.service.take c r
    { d with service := p.2, visits := d.visits ++ [⟨r, p.1, []⟩] }

/-- Notes what a chain said, and answers the request for whose sake it was asked. -/
def finish (chain : ChainId) (q : Query) (t : Table) (d : Daybook σ) : Daybook σ :=
  let p := d.service.note chain q t
  { service := p.2
    asking := Function.update d.asking chain none
    visits := d.visits ++ [⟨q.request, p.1, q.said⟩] }

/-- Makes one thing happen. What cannot happen changes nothing. -/
def move (c : Setup σ) (pace : Pace σ) (o : Occurrence) (d : Daybook σ) : Daybook σ :=
  match o with
  | .move (.request r) => if d.free r then d.begin c r else d
  | .move m => { d with service := d.service.move c pace m }
  | .arrives chain =>
    (d.asking chain).elim d fun q => (d.service.table? chain).elim d fun t => d.finish chain q t
  | .leaves chain => { d with asking := Function.update d.asking chain none }

/-- Makes several things happen in order. -/
def play (c : Setup σ) (pace : Pace σ) (os : List Occurrence) (d : Daybook σ) : Daybook σ :=
  os.foldl (fun e o => e.move c pace o) d

/-- A run goes on where the one before it ended. -/
theorem play_append (c : Setup σ) (pace : Pace σ) (first second : List Occurrence)
    (d : Daybook σ) : d.play c pace (first ++ second) = (d.play c pace first).play c pace second :=
  List.foldl_append

/-- The requests that were answered, with their answers. -/
def reactions (d : Daybook σ) : List (Request × Reaction) :=
  d.visits.map fun v => (v.request, v.reaction)

/-- The tracker of a chain is held while the chain is asked: it still does not know the
    account. -/
def Held (d : Daybook σ) : Prop :=
  ∀ chain q, d.asking chain = some q →
    q.Asks chain ∧ ∃ t, d.service.table? chain = some t ∧ t.get? q.account = none

/-- What can happen. -/
inductive Turn (c : Setup σ) (d d' : Daybook σ) : Prop where
  /-- The nonces are left alone, and nobody is answered. -/
  | quiet (nonces : d'.service.nonces = d.service.nonces) (visits : d'.visits = d.visits)
      (asking : ∀ chain q, d'.asking chain = some q → d.asking chain = some q)
  /-- A chain is asked. -/
  | asks {r : Request} {chain : ChainId} {account : Address} {t : Table}
      (errand : r.errand? = some (chain, .allocate account)) (free : d.asking chain = none)
      (tracked : d.service.table? chain = some t) (unknown : t.get? account = none)
      (after : d' =
        { d with
          service := (d.service.ask c r chain account).2
          asking := Function.update d.asking chain (some (d.service.ask c r chain account).1) })
  /-- A request on no errand is answered. -/
  | aside {v : Visit} (aimless : v.request.errand? = none)
      (nonces : d'.service.nonces = d.service.nonces) (visits : d'.visits = d.visits ++ [v])
      (asking : d'.asking = d.asking) (silent : v.nonce? = none) (stays : v.forgets = false)
      (unasked : v.said = [])
  /-- A request is answered that is about a chain without a tracker. -/
  | away {v : Visit} {chain : ChainId} {call : Call}
      (errand : v.request.errand? = some (chain, call))
      (untracked : d.service.table? chain = none)
      (nonces : d'.service.nonces = d.service.nonces) (visits : d'.visits = d.visits ++ [v])
      (asking : d'.asking = d.asking)
      (reaction : v.reaction = .now (.ofFailure (.chainNotFound chain))) (unasked : v.said = [])
  /-- A request is served. -/
  | served {v : Visit} {chain : ChainId} {account : Address} {e : Ended} {t u : Table}
      (about : e.call = .allocate account ∨ e.call = .reset account)
      (tracked : d.service.table? chain = some t)
      (served : d.service.Served d'.service chain account v e t u)
      (visits : d'.visits = d.visits ++ [v])
      (asking : d'.asking = Function.update d.asking chain none)

section Turns

variable {c : Setup σ} {pace : Pace σ} {d d' : Daybook σ} {s : Service σ} {r : Request}

-- Whoever is on an errand submits no transaction.
theorem take_errand {x : ChainId × Call} (errand : r.errand? = some x) :
    s.take c r = s.handle c r := by
  unfold Service.take
  cases submits : r.submission? s.fleet with
  | none => rfl
  | some y =>
    have path := (Request.submission?_eq_some.mp submits).posts.2
    unfold Request.errand? at errand
    rw [path] at errand
    exact absurd errand (by simp)

-- A request on no errand does nothing to the nonces.
theorem idle_take (aimless : r.errand? = none) : s.Idle (s.take c r) := by
  unfold Service.take
  cases r.submission? s.fleet with
  | none => exact Service.handle_aimless aimless
  | some y => exact ⟨rfl, rfl, rfl⟩

-- A tracker that is free is free afterwards.
theorem update_of_free {chain : ChainId} (free : d.asking chain = none) :
    d.asking = Function.update d.asking chain none := by
  rw [← free, Function.update_eq_self]

-- The turn of a request comes if nobody holds the tracker that it needs.
theorem move_request (free : d.free r = true) :
    d.move c pace (.move (.request r)) = d.begin c r :=
  if_pos free

theorem free_of_errand {chain : ChainId} {call : Call} (errand : r.errand? = some (chain, call)) :
    d.free r = true ↔ d.asking chain = none := by
  simp [free, errand]

-- A request for which a chain has to be asked.
theorem begin_query {chain : ChainId} {account : Address}
    (query : d.service.query? r = some (chain, account)) :
    d.begin c r =
      { d with
        service := (d.service.ask c r chain account).2
        asking := Function.update d.asking chain (some (d.service.ask c r chain account).1) } := by
  unfold begin
  rw [query]

-- A request that needs no chain.
theorem begin_take (query : d.service.query? r = none) :
    d.begin c r =
      { d with
        service := (d.service.take c r).2
        visits := d.visits ++ [⟨r, (d.service.take c r).1, []⟩] } := by
  unfold begin
  rw [query]

/-- A request whose turn comes. -/
theorem begin_turn (free : d.free r = true) : Turn c d (d.begin c r) := by
  cases query : d.service.query? r with
  | some x =>
    obtain ⟨chain, account⟩ := x
    obtain ⟨errand, t, tracked, unknown⟩ := Service.query?_eq_some.mp query
    exact .asks errand ((free_of_errand errand).mp free) tracked unknown (begin_query query)
  | none =>
    rw [begin_take query]
    cases errand : r.errand? with
    | none =>
      obtain ⟨nonces, silent, stays⟩ := idle_take (c := c) (s := d.service) errand
      exact .aside (v := ⟨r, (d.service.take c r).1, []⟩) errand nonces rfl rfl silent stays rfl
    | some x =>
      obtain ⟨chain, call⟩ := x
      rw [take_errand errand]
      cases tracked : d.service.table? chain with
      | none =>
        have handled := Service.handle_untracked (c := c) errand tracked
        exact .away (v := ⟨r, (d.service.handle c r).1, []⟩) errand tracked
          (congrArg (·.2.nonces) handled) rfl rfl (congrArg Prod.fst handled) rfl
      | some t =>
        have known : t.query? call = none := by
          simpa [Service.query?, errand, tracked] using query
        obtain ⟨account, e, u, about, served⟩ := Service.served_now (c := c) errand tracked known
        have same : e.call = call := by
          have told := served.tells.errand
          rw [errand] at told
          exact (Prod.mk.inj (Option.some.inj told)).2.symm
        exact .served (same.symm ▸ about) tracked served rfl
          (update_of_free ((free_of_errand errand).mp free))

/-- An occurrence is a turn. -/
theorem move_turn (held : d.Held) (o : Occurrence) : Turn c d (d.move c pace o) := by
  have still : Turn c d d := .quiet rfl rfl fun _ _ asked => asked
  rcases o with (r | _ | m) | chain | chain
  · by_cases free : d.free r = true
    · rw [move_request free]
      exact begin_turn free
    · rw [show d.move c pace (.move (.request r)) = d from if_neg free]
      exact still
  · exact .quiet rfl rfl fun _ _ asked => asked
  · refine .quiet ?_ rfl fun _ _ asked => asked
    show (if m.served then _ else d.service).nonces = d.service.nonces
    split <;> rfl
  · show Turn c d ((d.asking chain).elim d _)
    cases asked : d.asking chain with
    | none => exact still
    | some q =>
      obtain ⟨asks, t, tracked, unknown⟩ := held chain q asked
      simp only [tracked, Option.elim_some]
      exact .served (Or.inl rfl) tracked (Service.served_note asks unknown) rfl rfl
  · refine .quiet rfl rfl fun there q asked => ?_
    have asked : Function.update d.asking chain none there = some q := asked
    by_cases here : there = chain
    · subst here
      simp at asked
    · rwa [Function.update_of_ne here] at asked

-- Whoever is asked was asked before, or is asked now.
theorem Held.kept (held : d.Held) (turn : Turn c d d') : d'.Held := by
  intro chain q asked
  cases turn with
  | quiet nonces visits asking =>
    rw [Service.table?_congr nonces]
    exact held chain q (asking chain q asked)
  | aside aimless nonces visits asking =>
    rw [Service.table?_congr nonces]
    exact held chain q (asking ▸ asked)
  | away errand untracked nonces visits asking =>
    rw [Service.table?_congr nonces]
    exact held chain q (asking ▸ asked)
  | @asks r there account t errand free tracked unknown after =>
    subst after
    obtain ⟨asks, nonces, -⟩ := Service.ask_spec (c := c) (s := d.service) errand
    dsimp only at asked ⊢
    rw [Service.table?_congr nonces]
    by_cases here : chain = there
    · subst here
      rw [Function.update_self] at asked
      rw [← Option.some.inj asked]
      exact ⟨asks, t, tracked, unknown⟩
    · rw [Function.update_of_ne here] at asked
      exact held chain q asked
  | @served v there account e t u about tracked served visits asking =>
    rw [asking] at asked
    by_cases here : chain = there
    · subst here
      simp at asked
    · rw [Function.update_of_ne here] at asked
      rw [served.table? tracked, if_neg here]
      exact held chain q asked

/-- What every turn keeps, a run keeps. -/
theorem turn_induction (c : Setup σ) (pace : Pace σ) {P : Daybook σ → Prop}
    (keeps : ∀ d d', d.Held → Turn c d d' → P d → P d') (os : List Occurrence) (d : Daybook σ)
    (held : d.Held) (start : P d) : (d.play c pace os).Held ∧ P (d.play c pace os) := by
  induction os generalizing d with
  | nil => exact ⟨held, start⟩
  | cons o rest ih =>
    have turn : Turn c d (d.move c pace o) := move_turn held o
    exact ih (d.move c pace o) (held.kept turn) (keeps d _ held turn start)

end Turns

section Runs

variable {c : Setup σ} {d : Daybook σ} {s : Service σ} {r : Request}

-- Whether a request is taken in one step or in two, its caller is told the same.
theorem fst_take : (s.take c r).1 = (s.handle c r).1 := by
  unfold Service.take
  cases submits : r.submission? s.fleet with
  | none => rfl
  | some x =>
    rw [Service.handle_submission (Request.submission?_eq_some.mp submits)]

-- A request that is told at once what its chain says is taken as the service takes it.
theorem exists_take (idle : ∀ chain, d.asking chain = none) (pace : Pace σ) (r : Request) :
    ∃ os v, d.play c pace os =
        { d with service := (d.service.take c r).2, visits := d.visits ++ [v] } ∧
      v.request = r ∧ v.reaction = (d.service.handle c r).1 := by
  have free : d.free r = true := by
    unfold Daybook.free
    cases r.errand? <;> simp [idle]
  have first : d.move c pace (.move (.request r)) = d.begin c r := move_request free
  cases query : d.service.query? r with
  | none =>
    refine ⟨[.move (.request r)], ⟨r, (d.service.take c r).1, []⟩, ?_, rfl, fst_take⟩
    exact first.trans (begin_take query)
  | some x =>
    obtain ⟨chain, account⟩ := x
    obtain ⟨errand, t, tracked, unknown⟩ := Service.query?_eq_some.mp query
    have tracked' : (d.service.ask c r chain account).2.table? chain = some t := tracked
    refine ⟨[.move (.request r), .arrives chain],
      ⟨r, (d.service.handle c r).1, (d.service.ask c r chain account).1.said⟩, ?_, rfl, rfl⟩
    show (d.move c pace (.move (.request r))).move c pace (.arrives chain) = _
    rw [first, begin_query query, take_errand errand,
      Service.handle_query errand tracked unknown]
    simp only [move, Function.update_self, tracked', Option.elim_some, finish,
      Function.update_idem]
    rw [← update_of_free (idle chain)]
    rfl

/-- A run of the service is a run of its daybook in which chains answer at once, and
    what the service answers is what the daybook keeps. -/
theorem exists_play (c : Setup σ) (pace : Pace σ) (moves : List Move) (d : Daybook σ)
    (idle : ∀ chain, d.asking chain = none) :
    ∃ os, (d.play c pace os).service = d.service.play c pace moves ∧
      (d.play c pace os).reactions = d.reactions ++ d.service.reactions c pace moves ∧
      ∀ chain, (d.play c pace os).asking chain = none := by
  induction moves generalizing d with
  | nil => exact ⟨[], rfl, (List.append_nil _).symm, idle⟩
  | cons m rest ih =>
    have first : ∃ os, (d.play c pace os).service = d.service.move c pace m ∧
        (d.play c pace os).reactions = d.reactions ++ (d.service.reaction? c m).toList ∧
        ∀ chain, (d.play c pace os).asking chain = none := by
      cases m with
      | request r =>
        obtain ⟨os, v, same, rfl, told⟩ := exists_take (c := c) idle pace r
        refine ⟨os, ?_, ?_, ?_⟩
        · rw [same]
          rfl
        · rw [same]
          simp [reactions, Service.reaction?, told]
        · rw [same]
          exact idle
      | probe => exact ⟨[.move .probe], rfl, (List.append_nil _).symm, idle⟩
      | queue m => exact ⟨[.move (.queue m)], rfl, (List.append_nil _).symm, idle⟩
    obtain ⟨os, same, told, free⟩ := first
    obtain ⟨more, others, after, free⟩ := ih (d.play c pace os) free
    refine ⟨os ++ more, ?_, ?_, ?_⟩
    · rw [play_append, others, same]
      rfl
    · rw [play_append, after, told, same, List.append_assoc]
      rfl
    · rw [play_append]
      exact free

end Runs

end Daybook

end Api

end TxRelay
