import TxRelay.Proofs.Nonce.Move

/-!
# The Journal of a Nonce Tracker

A tracker remembers what its calls came to, and what the chain was asked. It
does not remember what was asked of it and when, who left, and what the chain
replied. A journal is a run that writes these down: every call with the instant
at which it was asked and, if its caller left, when and where; and every call
that ended, with the chain's reply if it needed one.

What a single move can do to a journal is spread over several functions of the
tracker. `Step` lists the cases once, so a proof that something is kept is a
case split over `Step`.

## Main definitions

* `Nonce.Request`, `Nonce.Departure`: A call as its caller sees it.
* `Nonce.Ended`: A call that ended.
* `Nonce.Journal`: A tracker with its calls.
* `Nonce.Step`: A step of a journal.
* `Nonce.Ordered`: Calls are open and end in the order in which they were asked.

## Theorems

* `Nonce.Table.serve_of_known`, `serve_of_unknown`: A call that needs no query,
  and one that does.
* `Nonce.Journal.tracker_play`: Keeping a journal changes nothing.
* `Nonce.Journal.step_induction`: What every step keeps, a run keeps.
-/

namespace TxRelay

namespace Nonce

/-- Stands for the reply of a chain that is not asked. -/
def unasked : Outcome UInt64 := .crash ""

namespace Table

/-- The account for which the chain has to be asked before a call can end. -/
def query? (call : Call) (t : Table) : Option Address :=
  match call with
  | .allocate account => if (t.get? account).isSome then none else some account
  | _ => none

-- Only the first nonce of an account needs the chain.
theorem query?_eq_some {call : Call} {t : Table} {account : Address} :
    t.query? call = some account ↔ call = .allocate account ∧ t.get? account = none := by
  cases call with
  | allocate a =>
    cases found : t.get? a with
    | none =>
      simp only [query?, found, Option.isSome_none, Bool.false_eq_true, if_false,
        Option.some.injEq, Call.allocate.injEq]
      exact ⟨fun same => ⟨same, same ▸ found⟩, fun same => same.1⟩
    | some n =>
      simp only [query?, found, Option.isSome_some, if_true, Call.allocate.injEq]
      constructor
      · exact fun none => absurd none (Option.some_ne_none account).symm
      · rintro ⟨rfl, none⟩
        exact absurd (found.symm.trans none) (Option.some_ne_none n)
  | reset a => simp only [query?, reduceCtorEq, false_and]
  | count => simp only [query?, reduceCtorEq, false_and]

-- What the chain would say makes no difference to a call that does not ask it.
theorem serve_of_known {call : Call} {t : Table} (known : t.query? call = none)
    (answer : Outcome UInt64) : t.serve call answer = t.serve call unasked := by
  cases call with
  | allocate a =>
    cases found : t.get? a with
    | none => simp [query?, found] at known
    | some n => simp only [serve, found]
  | reset a => rfl
  | count => rfl

-- The first nonce of an account is the one the chain names.
theorem serve_of_unknown {t : Table} {account : Address} (unknown : t.get? account = none)
    (answer : Outcome UInt64) : t.serve (.allocate account) answer = t.seed account answer := by
  simp only [serve, unknown]

end Table

namespace Tracker

variable {σ : Type}

-- A call that does not ask the chain ends at once, with what the table says.
theorem serve_of_known {source : NonceSource σ} {ticket : Nat} {call : Call} {t : Tracker σ}
    (known : t.table.query? call = none) :
    t.serve source ticket call =
      finish ticket (t.table.serve call unasked).1
        { t with
          table := (t.table.serve call unasked).2
          outside := t.outside.measure ((t.table.serve call unasked).1.record .cache) } := by
  cases call with
  | allocate a =>
    cases found : t.table.get? a with
    | none => simp [Table.query?, found] at known
    | some n => simp only [serve, Table.serve, found]
  | reset a => rfl
  | count => rfl

-- A call for an account that is not in the table keeps the lock and asks the chain.
theorem serve_of_unknown {source : NonceSource σ} {ticket : Nat} {account : Address}
    {t : Tracker σ} (unknown : t.table.get? account = none) :
    t.serve source ticket (.allocate account) =
      { t with
        holder := some ⟨ticket, account, (source account t.outside.world).1.calledAt t.now⟩
        outside := (t.outside.call t.now (.query account) (source account)).2 } := by
  simp only [serve, unknown]
  rfl

end Tracker

/-- When and where a caller left. -/
inductive Departure where
  /-- In line, before it was given the lock. -/
  | inLine (instant : Nat)
  /-- While the chain was asked on its behalf. -/
  | inQuery (instant : Nat)
  deriving DecidableEq

/-- A call as its caller sees it. -/
structure Request where
  /-- The number of the call. -/
  ticket : Nat
  /-- What was asked for. -/
  call : Call
  /-- When. -/
  asked : Nat
  /-- Whether the caller left before the call ended. -/
  left : Option Departure

namespace Request

/-- The caller of a ticket leaves. -/
def leave (ticket : Nat) (d : Option Departure) (r : Request) : Request :=
  if r.ticket = ticket then { r with left := r.left <|> d } else r

/-- A call without its times. -/
def named (r : Request) : Nat × Call :=
  (r.ticket, r.call)

@[simp]
theorem named_leave (ticket : Nat) (d : Option Departure) (r : Request) :
    (r.leave ticket d).named = r.named := by
  unfold leave
  split <;> rfl

@[simp]
theorem ticket_leave (ticket : Nat) (d : Option Departure) (r : Request) :
    (r.leave ticket d).ticket = r.ticket := by
  unfold leave
  split <;> rfl

@[simp]
theorem call_leave (ticket : Nat) (d : Option Departure) (r : Request) :
    (r.leave ticket d).call = r.call := by
  unfold leave
  split <;> rfl

@[simp]
theorem asked_leave (ticket : Nat) (d : Option Departure) (r : Request) :
    (r.leave ticket d).asked = r.asked := by
  unfold leave
  split <;> rfl

-- A caller who does not leave stays.
@[simp]
theorem leave_none (ticket : Nat) (r : Request) : r.leave ticket none = r := by
  unfold leave
  split
  · cases left : r.left <;> simp [← left]
  · rfl

end Request

/-- A call that ended. -/
structure Ended where
  /-- When it ended. -/
  instant : Nat
  /-- The number of the call. -/
  ticket : Nat
  /-- What was asked for. -/
  call : Call
  /-- What the chain replied, if it was asked. -/
  reply : Option (Outcome UInt64)
  /-- What the caller was given. -/
  result : Result

namespace Tracker

variable {σ : Type}

/-- Where a caller is that leaves now, if its call is still open. -/
def departure? (ticket : Nat) (t : Tracker σ) : Option Departure :=
  if t.holder.any fun h => h.ticket == ticket then some (.inQuery t.now)
  else if t.waiting.any fun w => w.1 == ticket then some (.inLine t.now)
  else none

section Leaving

variable {t : Tracker σ} {ticket : Nat}

-- Who does not hold the lock can only leave the line.
theorem quit_of_other (other : ∀ h, t.holder = some h → h.ticket ≠ ticket) :
    t.quit ticket = { t with waiting := t.waiting.filter fun w => w.1 != ticket } := by
  have holder : t.holder.filter (fun h => h.ticket != ticket) = t.holder := by
    cases held : t.holder with
    | none => rfl
    | some h => exact Option.filter_some_pos (bne_iff_ne.mpr (other h held))
  unfold quit
  rw [holder]

-- Who holds the lock is not in line, and gives it back.
theorem quit_of_holder {h : Holder} (holder : t.holder = some h)
    (absent : h.ticket ∉ t.waiting.map Prod.fst) :
    t.quit h.ticket = { t with holder := none } := by
  have waiting : t.waiting.filter (fun w => w.1 != h.ticket) = t.waiting := by
    refine List.filter_eq_self.mpr fun w mem => bne_iff_ne.mpr fun same => absent ?_
    exact List.mem_map.mpr ⟨w, mem, same⟩
  unfold quit
  rw [holder, waiting]
  simp only [Option.filter, bne_self_eq_false, Bool.false_eq_true, if_false]

-- Who is neither in line nor holds the lock leaves nothing.
theorem quit_of_absent (other : ∀ h, t.holder = some h → h.ticket ≠ ticket)
    (absent : ticket ∉ t.waiting.map Prod.fst) : t.quit ticket = t := by
  have waiting : t.waiting.filter (fun w => w.1 != ticket) = t.waiting := by
    refine List.filter_eq_self.mpr fun w mem => bne_iff_ne.mpr fun same => absent ?_
    exact List.mem_map.mpr ⟨w, mem, same⟩
  rw [quit_of_other other, waiting]

-- Who does not hold the lock leaves from the line, if at all.
theorem departure?_of_other (other : ∀ h, t.holder = some h → h.ticket ≠ ticket) :
    t.departure? ticket =
      if ticket ∈ t.waiting.map Prod.fst then some (.inLine t.now) else none := by
  have holder : t.holder.any (fun h => h.ticket == ticket) = false := by
    cases held : t.holder with
    | none => rfl
    | some h => exact beq_eq_false_iff_ne.mpr (other h held)
  unfold departure?
  rw [holder]
  by_cases waits : ticket ∈ t.waiting.map Prod.fst
  · have found : t.waiting.any (fun w => w.1 == ticket) = true := by
      rcases List.mem_map.mp waits with ⟨w, mem, same⟩
      exact List.any_eq_true.mpr ⟨w, mem, beq_iff_eq.mpr same⟩
    rw [if_pos waits, found]
    rfl
  · have none : t.waiting.any (fun w => w.1 == ticket) = false := by
      refine List.any_eq_false.mpr fun w mem same => waits ?_
      exact List.mem_map.mpr ⟨w, mem, beq_iff_eq.mp same⟩
    rw [if_neg waits, none]
    rfl

-- Who holds the lock leaves while the chain is asked.
theorem departure?_of_holder {h : Holder} (holder : t.holder = some h) :
    t.departure? h.ticket = some (.inQuery t.now) := by
  simp only [departure?, holder, Option.any_some, beq_self_eq_true, if_true]

end Leaving

/-- The call that the next step up to an instant ends. -/
def closing? (limit : Nat) (t : Tracker σ) : Option Ended :=
  match t.holder with
  | some h =>
    match h.answer with
    | .arriving instant outcome =>
      if instant ≤ limit then
        some ⟨max t.now instant, h.ticket, .allocate h.account, some outcome,
          (t.table.seed h.account outcome).1⟩
      else none
    | .never => none
  | none =>
    match t.waiting with
    | [] => none
    | (ticket, call) :: _ =>
      match t.table.query? call with
      | none => some ⟨t.now, ticket, call, none, (t.table.serve call unasked).1⟩
      | some _ => none

/-- The call that a move ends. -/
def closingOf? (source : NonceSource σ) (m : Move) (t : Tracker σ) : Option Ended :=
  match m with
  | .work => t.closing? t.now
  | .pass span =>
    if (t.step? source t.now).isSome then none else t.closing? (t.now + span)
  | _ => none

end Tracker

/-- A tracker with its calls. -/
structure Journal (σ : Type) where
  /-- The tracker. -/
  tracker : Tracker σ
  /-- The calls that were made, in the order of asking. -/
  requests : List Request
  /-- The calls that ended, in the order of ending. -/
  ended : List Ended

namespace Journal

variable {σ : Type}

/-- Nothing was asked yet. -/
def fresh (world : σ) : Journal σ :=
  ⟨.fresh world, [], []⟩

/-- Makes a move and writes down what happened. -/
def move (source : NonceSource σ) (m : Move) (j : Journal σ) : Journal σ :=
  { tracker := j.tracker.move source m
    requests :=
      match m with
      | .ask call => j.requests ++ [⟨j.tracker.asked, call, j.tracker.now, none⟩]
      | .quit ticket => j.requests.map (Request.leave ticket (j.tracker.departure? ticket))
      | _ => j.requests
    ended := j.ended ++ (j.tracker.closingOf? source m).toList }

/-- Makes several moves in order. -/
def play (source : NonceSource σ) (moves : List Move) (j : Journal σ) : Journal σ :=
  moves.foldl (fun k m => k.move source m) j

/-- Keeping a journal changes nothing. -/
theorem tracker_play (source : NonceSource σ) (moves : List Move) (j : Journal σ) :
    (j.play source moves).tracker = j.tracker.play source moves := by
  induction moves generalizing j with
  | nil => rfl
  | cons m rest ih => exact ih (j.move source m)

/-- The calls that ended or are open, in that order. -/
def calls (j : Journal σ) : List (Nat × Call) :=
  j.ended.map (fun e => (e.ticket, e.call)) ++
    (j.tracker.holder.toList.map (fun h => (h.ticket, .allocate h.account)) ++ j.tracker.waiting)

end Journal

/-- A step of a journal. -/
inductive Step {σ : Type} (source : NonceSource σ) (j : Journal σ) : Journal σ → Prop where
  /-- A call is made. -/
  | ask (call : Call) :
      Step source j
        { j with
          tracker := j.tracker.enter call
          requests := j.requests ++ [⟨j.tracker.asked, call, j.tracker.now, none⟩] }
  /-- A caller leaves the line. -/
  | leaveLine {ticket : Nat} (waits : ticket ∈ j.tracker.waiting.map Prod.fst)
      (other : ∀ h, j.tracker.holder = some h → h.ticket ≠ ticket) :
      Step source j
        { j with
          tracker := { j.tracker with
            waiting := j.tracker.waiting.filter fun w => w.1 != ticket }
          requests := j.requests.map (Request.leave ticket (some (.inLine j.tracker.now))) }
  /-- The caller who holds the lock leaves. -/
  | leaveQuery {h : Holder} (holder : j.tracker.holder = some h) :
      Step source j
        { j with
          tracker := { j.tracker with holder := none }
          requests := j.requests.map (Request.leave h.ticket (some (.inQuery j.tracker.now))) }
  /-- The first in line is served at once. -/
  | serve {ticket : Nat} {call : Call} {rest : List (Nat × Call)}
      (free : j.tracker.holder = none) (waiting : j.tracker.waiting = (ticket, call) :: rest)
      (known : j.tracker.table.query? call = none) :
      Step source j
        { j with
          tracker := Tracker.finish ticket (j.tracker.table.serve call unasked).1
            { j.tracker with
              waiting := rest
              table := (j.tracker.table.serve call unasked).2
              outside := j.tracker.outside.measure
                ((j.tracker.table.serve call unasked).1.record .cache) }
          ended := j.ended ++
            [⟨j.tracker.now, ticket, call, none, (j.tracker.table.serve call unasked).1⟩] }
  /-- The first in line is given the lock, and the chain is asked. -/
  | query {ticket : Nat} {account : Address} {rest : List (Nat × Call)}
      (free : j.tracker.holder = none)
      (waiting : j.tracker.waiting = (ticket, .allocate account) :: rest)
      (unknown : j.tracker.table.get? account = none) :
      Step source j
        { j with
          tracker := { j.tracker with
            waiting := rest
            holder := some ⟨ticket, account,
              (source account j.tracker.outside.world).1.calledAt j.tracker.now⟩
            outside :=
              (j.tracker.outside.call j.tracker.now (.query account) (source account)).2 } }
  /-- The chain's answer arrives. -/
  | arrive {h : Holder} {i : Nat} {outcome : Outcome UInt64} (holder : j.tracker.holder = some h)
      (answer : h.answer = .arriving i outcome) :
      Step source j
        { j with
          tracker := Tracker.release h outcome { j.tracker with now := max j.tracker.now i }
          ended := j.ended ++ [⟨max j.tracker.now i, h.ticket, .allocate h.account, some outcome,
            (j.tracker.table.seed h.account outcome).1⟩] }
  /-- Nothing happens up to an instant, and time passes. -/
  | wait (limit : Nat) (later : j.tracker.now ≤ limit)
      (rest : j.tracker.step? source limit = none) :
      Step source j { j with tracker := { j.tracker with now := limit } }

/-- Calls are open and end in the order in which they were asked. -/
structure Ordered {σ : Type} (j : Journal σ) : Prop where
  /-- Every call has a ticket of its own. -/
  tickets : j.requests.map Request.ticket = List.range j.tracker.asked
  /-- What ended comes before what is open, and both are in order. -/
  calls : j.calls.Sublist (j.requests.map Request.named)
  /-- The tracker knows the same results. -/
  results : j.tracker.results = (j.ended.map fun e => (e.instant, e.ticket, e.result)).reverse

namespace Ordered

variable {σ : Type} {source : NonceSource σ} {j k : Journal σ}

-- Nothing was asked yet.
theorem fresh (world : σ) : Ordered (Journal.fresh world) :=
  ⟨rfl, List.Sublist.refl _, rfl⟩

/-- Tickets rise along the calls that ended and are open. -/
theorem sorted (o : Ordered j) : (j.calls.map Prod.fst).Pairwise (· < ·) := by
  have sub := o.calls.map Prod.fst
  rw [List.map_map, show Prod.fst ∘ Request.named = Request.ticket from rfl, o.tickets] at sub
  exact List.pairwise_lt_range.sublist sub

-- Whoever holds the lock has a smaller ticket than all in line.
theorem not_in_line (o : Ordered j) {h : Holder} (holder : j.tracker.holder = some h) :
    h.ticket ∉ j.tracker.waiting.map Prod.fst := by
  have sorted := o.sorted
  unfold Journal.calls at sorted
  rw [holder, List.map_append, List.map_append, List.pairwise_append] at sorted
  have behind := (List.pairwise_append.mp sorted.2.1).2.2
  exact fun mem => Nat.lt_irrefl _ (behind h.ticket (List.mem_singleton.mpr rfl) _ mem)

/-- Every step keeps the order. -/
theorem kept (step : Step source j k) (o : Ordered j) : Ordered k := by
  -- The calls of the lists, after somebody left.
  have leave (ticket : Nat) (d : Option Departure) :
      (j.requests.map (Request.leave ticket d)).map Request.ticket =
          j.requests.map Request.ticket ∧
        (j.requests.map (Request.leave ticket d)).map Request.named =
          j.requests.map Request.named := by
    simp only [List.map_map, List.map_inj_left, Function.comp_apply, Request.ticket_leave,
      Request.named_leave, implies_true, and_self]
  have calls := o.calls
  unfold Journal.calls at calls
  cases step with
  | ask call =>
    refine ⟨?_, ?_, o.results⟩
    · simp only [List.map_append, o.tickets, Tracker.enter, List.range_succ]
      rfl
    · simp only [Journal.calls, Tracker.enter, List.map_append]
      rw [← List.append_assoc, ← List.append_assoc]
      refine List.Sublist.append ?_ (List.Sublist.refl _)
      rw [List.append_assoc]
      exact calls
  | leaveLine waits other =>
    refine ⟨(leave _ _).1.trans o.tickets, ?_, o.results⟩
    rw [(leave _ _).2]
    refine List.Sublist.trans ?_ calls
    exact (List.Sublist.refl _).append ((List.Sublist.refl _).append List.filter_sublist)
  | leaveQuery holder =>
    refine ⟨(leave _ _).1.trans o.tickets, ?_, o.results⟩
    rw [(leave _ _).2]
    refine List.Sublist.trans ?_ calls
    exact (List.Sublist.refl _).append ((List.nil_sublist _).append (List.Sublist.refl _))
  | serve free waiting known =>
    refine ⟨o.tickets, ?_, ?_⟩
    · rw [free, waiting] at calls
      simp only [Journal.calls, Tracker.finish, free, List.map_append, List.append_assoc]
      exact calls
    · simp only [Tracker.finish, o.results, List.map_append, List.reverse_append]
      rfl
  | query free waiting unknown =>
    refine ⟨o.tickets, ?_, o.results⟩
    rw [free, waiting] at calls
    exact calls
  | arrive holder answer =>
    refine ⟨o.tickets, ?_, ?_⟩
    · rw [holder] at calls
      simp only [Journal.calls, Tracker.release, Tracker.finish, List.map_append,
        List.append_assoc]
      exact calls
    · simp only [Tracker.release, Tracker.finish, o.results, List.map_append,
        List.reverse_append]
      rfl
  | wait limit later rest => exact ⟨o.tickets, o.calls, o.results⟩

end Ordered

namespace Step

variable {σ : Type} {source : NonceSource σ} {j : Journal σ}

-- What the tracker does next up to an instant, with the call that it ends.
theorem of_step? {limit : Nat} {u : Tracker σ} (step : j.tracker.step? source limit = some u) :
    Step source j
      { j with tracker := u, ended := j.ended ++ (j.tracker.closing? limit).toList } := by
  rcases Tracker.step?_cases step with ⟨h, i, outcome, holder, answer, due, rfl⟩ |
    ⟨ticket, call, rest, free, waiting, rfl⟩
  · have closing : j.tracker.closing? limit =
        some ⟨max j.tracker.now i, h.ticket, .allocate h.account, some outcome,
          (j.tracker.table.seed h.account outcome).1⟩ := by
      simp only [Tracker.closing?, holder, answer, if_pos due]
    rw [closing]
    exact arrive holder answer
  · cases need : j.tracker.table.query? call with
    | none =>
      have closing : j.tracker.closing? limit =
          some ⟨j.tracker.now, ticket, call, none, (j.tracker.table.serve call unasked).1⟩ := by
        simp only [Tracker.closing?, free, waiting, need]
      rw [closing, Tracker.serve_of_known (t := { j.tracker with waiting := rest }) need]
      exact serve free waiting need
    | some account =>
      rcases Table.query?_eq_some.mp need with ⟨rfl, unknown⟩
      have closing : j.tracker.closing? limit = none := by
        simp only [Tracker.closing?, free, waiting, need]
      rw [closing, Tracker.serve_of_unknown (t := { j.tracker with waiting := rest }) unknown,
        Option.toList_none, List.append_nil]
      exact query free waiting unknown

-- A caller leaves, wherever it is.
theorem of_quit (o : Ordered j) (ticket : Nat) :
    j.move source (.quit ticket) = j ∨ Step source j (j.move source (.quit ticket)) := by
  simp only [Journal.move, Tracker.move, Tracker.closingOf?, Option.toList_none, List.append_nil]
  by_cases holds : ∃ h, j.tracker.holder = some h ∧ h.ticket = ticket
  · rcases holds with ⟨h, holder, rfl⟩
    rw [Tracker.quit_of_holder holder (o.not_in_line holder), Tracker.departure?_of_holder holder]
    exact Or.inr (leaveQuery holder)
  · have other : ∀ h, j.tracker.holder = some h → h.ticket ≠ ticket :=
      fun h holder same => holds ⟨h, holder, same⟩
    rw [Tracker.departure?_of_other other]
    by_cases waits : ticket ∈ j.tracker.waiting.map Prod.fst
    · rw [if_pos waits, Tracker.quit_of_other other]
      exact Or.inr (leaveLine waits other)
    · rw [if_neg waits, Tracker.quit_of_absent other waits]
      simp only [funext (Request.leave_none ticket), List.map_id', true_or]

-- A tracker that does nothing up to an instant ends no call.
theorem closing?_of_rest {limit : Nat} (rest : j.tracker.step? source limit = none) :
    j.tracker.closing? limit = none := by
  unfold Tracker.closing?
  rcases Option.eq_none_or_eq_some j.tracker.holder with free | ⟨h, holder⟩
  · rcases waiting : j.tracker.waiting with _ | ⟨⟨ticket, call⟩, line⟩
    · rw [free]
    · rw [Tracker.step?_waiting free waiting] at rest
      exact absurd rest (Option.some_ne_none _)
  · rcases answer : h.answer with ⟨i, outcome⟩ | _
    · by_cases due : i ≤ limit
      · rw [Tracker.step?_arriving holder answer due] at rest
        exact absurd rest (Option.some_ne_none _)
      · simp only [holder, answer, if_neg due]
    · simp only [holder, answer]

/-- A move is a step, or it changes nothing. -/
theorem of_move (source : NonceSource σ) (o : Ordered j) (m : Move) :
    j.move source m = j ∨ Step source j (j.move source m) := by
  cases m with
  | ask call =>
    refine Or.inr ?_
    simp only [Journal.move, Tracker.closingOf?, Option.toList_none, List.append_nil]
    exact ask call
  | quit ticket => exact of_quit o ticket
  | work =>
    simp only [Journal.move, Tracker.move, Tracker.closingOf?]
    cases step : j.tracker.step? source j.tracker.now with
    | some u => exact Or.inr (of_step? step)
    | none =>
      rw [closing?_of_rest step, Option.toList_none, List.append_nil]
      exact Or.inl rfl
  | pass span =>
    simp only [Journal.move, Tracker.move, Tracker.closingOf?, Tracker.pass]
    cases now : j.tracker.step? source j.tracker.now with
    | some u =>
      simp only [Option.isSome_some, if_true, Option.toList_none, List.append_nil, true_or]
    | none =>
      simp only [Option.isSome_none, Bool.false_eq_true, if_false]
      cases step : j.tracker.step? source (j.tracker.now + span) with
      | some u => exact Or.inr (of_step? step)
      | none =>
        have later : j.tracker.now ≤ j.tracker.now + span := Nat.le_add_right _ _
        rw [closing?_of_rest step, Option.toList_none, List.append_nil, Option.getD_none,
          Nat.max_eq_right later]
        exact Or.inr (wait _ later step)

end Step

namespace Journal

variable {σ : Type}

/-- What every step keeps, a run keeps. -/
theorem step_induction (source : NonceSource σ) {P : Journal σ → Prop}
    (keeps : ∀ j k, Ordered j → Step source j k → P j → P k) (moves : List Move)
    (j : Journal σ) (o : Ordered j) (start : P j) :
    Ordered (j.play source moves) ∧ P (j.play source moves) := by
  induction moves generalizing j with
  | nil => exact ⟨o, start⟩
  | cons m rest ih =>
    rcases Step.of_move source o m with same | step
    · exact ih (j.move source m) (same.symm ▸ o) (same.symm ▸ start)
    · exact ih (j.move source m) (o.kept step) (keeps j _ o step start)

end Journal

end Nonce

end TxRelay
