import TxRelay.Proofs.Nonce.Journal

/-!
# Calls in Turn

What comes of calls on a nonce table if they are served one after another, told
from when they were asked and when their callers left, and from nothing the
tracker does. A call is served as soon as it was asked and the call served
before it is over. It is over at that instant, unless the table needs the
chain's reply; then it is over when the reply arrives, or when its caller leaves.
A caller who left before its call could be served is passed over.

A `Desk` is what a call finds: since when the lock is free, the table and the
chain. An instant that never comes is `none`, and what waits for it is never
served.

## Main definitions

* `Nonce.Turn`: A call that was given the lock.
* `Nonce.Desk.serve`: The recurrence.
* `Nonce.turns`: The turns of several calls.
* `Nonce.Admitted`: Callers left where the turns let them.

## Theorems

* `Nonce.serial_turns`: Turns do not overlap.
* `Nonce.admitted_of_unserved`: Callers may leave who could not be served yet.
-/

namespace TxRelay

namespace Nonce

/-- A call that was given the lock. -/
structure Turn where
  /-- The number of the call. -/
  ticket : Nat
  /-- What was asked for. -/
  call : Call
  /-- When it was given the lock. -/
  began : Nat
  /-- The account that the chain was asked for. -/
  query : Option Address
  /-- When it gave the lock back. -/
  ended : Option Nat
  /-- What the caller was given, unless it left. -/
  result : Option Result

namespace Turn

/-- What the caller was given, and when. -/
def answer? (t : Turn) : Option (Nat × Nat × Result) :=
  match t.ended, t.result with
  | some i, some r => some (i, t.ticket, r)
  | _, _ => none

/-- What the chain was asked, and when. -/
def question? (t : Turn) : Option (Nat × Act) :=
  t.query.map fun account => (t.began, .query account)

end Turn

/-- What callers were given, in the order of their turns. -/
def answers (ts : List Turn) : List (Nat × Nat × Result) :=
  ts.filterMap Turn.answer?

/-- What the chain was asked, in the order of the turns. -/
def questions (ts : List Turn) : List (Nat × Act) :=
  ts.filterMap Turn.question?

/-- What a call finds when its turn comes. -/
structure Desk (σ : Type) where
  /-- Since when the lock is free. -/
  free : Option Nat
  /-- The last nonce of each account. -/
  table : Table
  /-- The chain. -/
  world : σ

namespace Desk

variable {σ : Type}

/-- Nothing was asked yet. -/
def fresh (world : σ) : Desk σ :=
  ⟨some 0, [], world⟩

/-- The turn of a call that is given the lock, and what it leaves. A caller who
    leaves in the middle of its query only held the lock. -/
def take (source : NonceSource σ) (r : Request) (began : Nat) (d : Desk σ) : Turn × Desk σ :=
  match d.table.query? r.call with
  | none =>
    let s := d.table.serve r.call unasked
    (⟨r.ticket, r.call, began, none, some began, some s.1⟩, ⟨some began, s.2, d.world⟩)
  | some account =>
    let reply := source account d.world
    match r.left, reply.1 with
    | some (.inQuery i), _ =>
      (⟨r.ticket, r.call, began, some account, some i, none⟩, ⟨some i, d.table, reply.2⟩)
    | _, .after delay outcome =>
      let s := d.table.serve r.call outcome
      (⟨r.ticket, r.call, began, some account, some (began + delay), some s.1⟩,
        ⟨some (began + delay), s.2, reply.2⟩)
    | _, .never =>
      (⟨r.ticket, r.call, began, some account, none, none⟩, ⟨none, d.table, reply.2⟩)

/-- The next call in the order of asking. Who left the line is passed over, and
    so is everybody if the lock is never given back. -/
def serve (source : NonceSource σ) (r : Request) (d : Desk σ) : Option Turn × Desk σ :=
  match d.free, r.left with
  | none, _ => (none, d)
  | some _, some (.inLine _) => (none, d)
  | some free, _ =>
    let s := d.take source r (max r.asked free)
    (some s.1, s.2)

/-- What several calls leave. -/
def after (source : NonceSource σ) (rs : List Request) (d : Desk σ) : Desk σ :=
  rs.foldl (fun e r => (e.serve source r).2) d

/-- Whether a caller could leave where it did: in line no later than its turn
    came, or in the middle of a query that was made for it. -/
def admits (source : NonceSource σ) (r : Request) (d : Desk σ) : Prop :=
  match r.left with
  | none => True
  | some (.inLine i) => r.asked ≤ i ∧ ∀ f, d.free = some f → i ≤ max r.asked f
  | some (.inQuery i) =>
    ∃ f account, d.free = some f ∧ d.table.query? r.call = some account ∧ max r.asked f ≤ i ∧
      ∀ delay outcome, (source account d.world).1 = .after delay outcome →
        i ≤ max r.asked f + delay

end Desk

/-- The turns of several calls. -/
def turns {σ : Type} (source : NonceSource σ) : List Request → Desk σ → List Turn
  | [], _ => []
  | r :: rs, d => (d.serve source r).1.toList ++ turns source rs (d.serve source r).2

/-- Several callers left where the turns let them. -/
def Admitted {σ : Type} (source : NonceSource σ) : List Request → Desk σ → Prop
  | [], _ => True
  | r :: rs, d => d.admits source r ∧ Admitted source rs (d.serve source r).2

section Append

variable {σ : Type} {source : NonceSource σ}

theorem after_append (first second : List Request) (d : Desk σ) :
    d.after source (first ++ second) = (d.after source first).after source second :=
  List.foldl_append

theorem turns_append (first second : List Request) (d : Desk σ) :
    turns source (first ++ second) d =
      turns source first d ++ turns source second (d.after source first) := by
  induction first generalizing d with
  | nil => rfl
  | cons r rs ih =>
    rw [List.cons_append, turns, turns, ih, List.append_assoc]
    rfl

theorem admitted_append {first second : List Request} {d : Desk σ} :
    Admitted source (first ++ second) d ↔
      Admitted source first d ∧ Admitted source second (d.after source first) := by
  induction first generalizing d with
  | nil => exact ⟨fun all => ⟨trivial, all⟩, fun both => both.2⟩
  | cons r rs ih =>
    rw [List.cons_append, Admitted, Admitted, ih, and_assoc]
    rfl

end Append

namespace Desk

variable {σ : Type} {source : NonceSource σ} {r : Request} {d : Desk σ} {f i began : Nat}

section Serve

-- Nobody is served after the lock was taken for ever.
theorem serve_of_late (late : d.free = none) : d.serve source r = (none, d) := by
  simp only [serve, late]

-- Who left the line is passed over.
theorem serve_of_gone (gone : r.left = some (.inLine i)) : d.serve source r = (none, d) := by
  cases free : d.free with
  | none => exact serve_of_late free
  | some f => simp only [serve, free, gone]

-- Who stays has not left the line.
theorem stays_of_none (stays : r.left = none) (i : Nat) : r.left ≠ some (.inLine i) := by
  rw [stays]
  exact (Option.some_ne_none _).symm

-- Who stays may do so.
theorem admits_of_none (stays : r.left = none) : d.admits source r := by
  unfold admits
  rw [stays]
  trivial

-- Everybody else is given the lock as soon as it is free.
theorem serve_of_free (source : NonceSource σ) (free : d.free = some f)
    (stays : ∀ i, r.left ≠ some (.inLine i)) :
    d.serve source r =
      (some (d.take source r (max r.asked f)).1, (d.take source r (max r.asked f)).2) := by
  unfold serve
  rw [free]
  rcases left : r.left with _ | ⟨i | i⟩
  · rfl
  · exact absurd left (stays i)
  · rfl

end Serve

section Take

-- A call that needs no reply is over at once.
theorem take_of_known (known : d.table.query? r.call = none) :
    d.take source r began =
      (⟨r.ticket, r.call, began, none, some began, some (d.table.serve r.call unasked).1⟩,
        ⟨some began, (d.table.serve r.call unasked).2, d.world⟩) := by
  simp only [take, known]

-- A caller who leaves gives the lock back.
theorem take_of_left {account : Address} (query : d.table.query? r.call = some account)
    (left : r.left = some (.inQuery i)) :
    d.take source r began =
      (⟨r.ticket, r.call, began, some account, some i, none⟩,
        ⟨some i, d.table, (source account d.world).2⟩) := by
  simp only [take, query, left]

-- A call that needs a reply is over when it arrives.
theorem take_of_reply {account : Address} {delay : Nat} {outcome : Outcome UInt64}
    (query : d.table.query? r.call = some account) (left : r.left = none)
    (reply : (source account d.world).1 = .after delay outcome) :
    d.take source r began =
      (⟨r.ticket, r.call, began, some account, some (began + delay),
          some (d.table.serve r.call outcome).1⟩,
        ⟨some (began + delay), (d.table.serve r.call outcome).2, (source account d.world).2⟩) := by
  simp only [take, query, left, reply]

-- It is never over if no reply arrives.
theorem take_of_never {account : Address} (query : d.table.query? r.call = some account)
    (left : r.left = none) (reply : (source account d.world).1 = .never) :
    d.take source r began =
      (⟨r.ticket, r.call, began, some account, none, none⟩,
        ⟨none, d.table, (source account d.world).2⟩) := by
  simp only [take, query, left, reply]

end Take

/-- What a turn has in common with all turns. The lock is free again when the
    turn is over. -/
structure Takes (r : Request) (start : Nat) (table : Table) (t : Turn) (e : Desk σ) : Prop where
  /-- It is the turn of the call. -/
  ticket : t.ticket = r.ticket
  /-- It is for what was asked. -/
  call : t.call = r.call
  /-- It begins when the lock is given. -/
  began : t.began = start
  /-- The chain is asked if the table needs its reply. -/
  query : t.query = table.query? r.call
  /-- The lock is given back when it is over. -/
  ended : t.ended = e.free
  /-- It is not over before it began. -/
  later : ∀ o, t.ended = some o → start ≤ o
  /-- Without a query it is over at once. -/
  brief : t.query = none → t.ended = some start

theorem takes (free : d.free = some f) (stays : ∀ i, r.left ≠ some (.inLine i))
    (admitted : d.admits source r) :
    Takes r (max r.asked f) d.table (d.take source r (max r.asked f)).1
      (d.take source r (max r.asked f)).2 := by
  cases query : d.table.query? r.call with
  | none =>
    rw [take_of_known query]
    exact ⟨rfl, rfl, rfl, query.symm, rfl, fun o same => Nat.le_of_eq (Option.some.inj same),
      fun _ => rfl⟩
  | some account =>
    have asks : some account ≠ none := Option.some_ne_none account
    rcases left : r.left with _ | ⟨i | i⟩
    · cases reply : (source account d.world).1 with
      | after delay outcome =>
        rw [take_of_reply query left reply]
        refine ⟨rfl, rfl, rfl, query.symm, rfl, fun o same => ?_, fun none => absurd none asks⟩
        rw [← Option.some.inj same]
        exact Nat.le_add_right _ delay
      | never =>
        rw [take_of_never query left reply]
        exact ⟨rfl, rfl, rfl, query.symm, rfl, fun o same => absurd same (by simp),
          fun none => absurd none asks⟩
    · exact absurd left (stays i)
    · rw [take_of_left query left]
      refine ⟨rfl, rfl, rfl, query.symm, rfl, fun o same => ?_, fun none => absurd none asks⟩
      simp only [admits, left] at admitted
      rcases admitted with ⟨g, _, held, _, begun, _⟩
      rw [← Option.some.inj same, ← Option.some.inj (held.symm.trans free)]
      exact begun

/-- A call is passed over, or it has a turn as soon as it was asked and the lock
    is free. -/
theorem serve_cases (admitted : d.admits source r) :
    d.serve source r = (none, d) ∧ (d.free = none ∨ ∃ i, r.left = some (.inLine i)) ∨
      ∃ f t e, d.free = some f ∧ (∀ i, r.left ≠ some (.inLine i)) ∧
        d.serve source r = (some t, e) ∧ Takes r (max r.asked f) d.table t e := by
  cases free : d.free with
  | none => exact Or.inl ⟨serve_of_late free, Or.inl rfl⟩
  | some f =>
    by_cases gone : ∃ i, r.left = some (.inLine i)
    · rcases gone with ⟨i, left⟩
      exact Or.inl ⟨serve_of_gone left, Or.inr ⟨i, left⟩⟩
    · have stays : ∀ i, r.left ≠ some (.inLine i) := fun i left => gone ⟨i, left⟩
      have served := serve_of_free source free stays
      exact Or.inr ⟨f, _, _, rfl, stays, served, takes free stays admitted⟩

-- The lock is never free again earlier than it was.
theorem free_serve (admitted : d.admits source r) {g : Nat}
    (free : (d.serve source r).2.free = some g) : ∃ f, d.free = some f ∧ f ≤ g := by
  rcases serve_cases admitted with ⟨same, _⟩ | ⟨f, t, e, held, _, served, takes⟩
  · rw [same] at free
    exact ⟨g, free, Nat.le_refl g⟩
  · rw [served] at free
    exact ⟨f, held, Nat.le_trans (Nat.le_max_right _ f) (takes.later g (takes.ended.trans free))⟩

end Desk

section Turns

variable {σ : Type} {source : NonceSource σ}

/-- What is known of every turn. -/
structure Prompt (rs : List Request) (free : Nat) (t : Turn) : Prop where
  /-- It is the turn of a call whose caller did not leave the line, and it begins
      when the call was asked and the lock was free. -/
  request : ∃ r ∈ rs, r.ticket = t.ticket ∧ r.call = t.call ∧
    (∀ i, r.left ≠ some (.inLine i)) ∧ max r.asked free ≤ t.began
  /-- It is not over before it began. -/
  later : ∀ o, t.ended = some o → t.began ≤ o
  /-- Without a query it is over at once. -/
  brief : t.query = none → t.ended = some t.began

-- Turns begin after the lock was free.
theorem prompt_of_mem {rs : List Request} {d : Desk σ} (admitted : Admitted source rs d) {t : Turn}
    (mem : t ∈ turns source rs d) : ∃ f, d.free = some f ∧ Prompt rs f t := by
  induction rs generalizing d with
  | nil => exact absurd mem List.not_mem_nil
  | cons r rs ih =>
    rw [turns, List.mem_append, Option.mem_toList] at mem
    rcases mem with first | later
    · rcases Desk.serve_cases admitted.1 with ⟨same, _⟩ | ⟨f, u, e, free, stays, served, takes⟩
      · rw [same] at first
        exact absurd first (by simp)
      · rw [served] at first
        have same : t = u := (Option.some.inj first).symm
        subst same
        refine ⟨f, free, ⟨r, List.mem_cons_self, takes.ticket.symm, takes.call.symm, stays, ?_⟩,
          ?_, ?_⟩
        · exact Nat.le_of_eq takes.began.symm
        · rw [takes.began]
          exact takes.later
        · rw [takes.began]
          exact takes.brief
    · rcases ih admitted.2 later with ⟨g, free, prompt⟩
      rcases Desk.free_serve admitted.1 free with ⟨f, held, le⟩
      rcases prompt.request with ⟨q, mem, ticket, call, stays, begun⟩
      refine ⟨f, held, ⟨q, List.mem_cons_of_mem r mem, ticket, call, stays, ?_⟩, prompt.later,
        prompt.brief⟩
      omega

-- Who left the line leaves no trace.
theorem passed_over {gone : List Request} {d : Desk σ}
    (left : ∀ r ∈ gone, ∃ i, r.left = some (.inLine i)) :
    turns source gone d = [] ∧ d.after source gone = d := by
  induction gone with
  | nil => exact ⟨rfl, rfl⟩
  | cons r rs ih =>
    rcases left r List.mem_cons_self with ⟨i, here⟩
    rw [turns, Desk.after, List.foldl_cons, Desk.serve_of_gone here]
    exact ih fun q mem => left q (List.mem_cons_of_mem r mem)

/-- Turns come in the order of asking and do not overlap: each is over before the
    next begins. -/
theorem serial_turns {rs : List Request} {d : Desk σ} (admitted : Admitted source rs d)
    (sorted : (rs.map Request.ticket).Pairwise (· < ·)) :
    (turns source rs d).Pairwise fun a b =>
      a.ticket < b.ticket ∧ ∃ o, a.ended = some o ∧ o ≤ b.began := by
  induction rs generalizing d with
  | nil => exact List.Pairwise.nil
  | cons r rs ih =>
    rw [List.map_cons, List.pairwise_cons] at sorted
    have rest := admitted.2
    rw [turns]
    rcases Desk.serve_cases admitted.1 with ⟨same, _⟩ | ⟨f, t, e, free, _, served, takes⟩
    · rw [same] at rest ⊢
      exact ih rest sorted.2
    · rw [served] at rest ⊢
      refine List.pairwise_cons.mpr ⟨fun u mem => ?_, ih rest sorted.2⟩
      rcases prompt_of_mem rest mem with ⟨g, held, prompt⟩
      rcases prompt.request with ⟨q, mem, ticket, _, _, begun⟩
      refine ⟨?_, g, takes.ended.trans held, Nat.le_trans (Nat.le_max_right _ g) begun⟩
      rw [takes.ticket, ← ticket]
      exact sorted.1 q.ticket (List.mem_map_of_mem mem)

-- Two callers who ask for a new account at the same time cause one query.
example :
    let account : Address := .repeated 20 0x11
    turns (fun _ _ => (.after 10 (.value 42), ()))
        [⟨0, .allocate account, 0, none⟩, ⟨1, .allocate account, 0, none⟩] (.fresh ()) =
      [⟨0, .allocate account, 0, some account, some 10, some (.nonce 42)⟩,
        ⟨1, .allocate account, 10, none, some 10, some (.nonce 43)⟩] := by
  rfl

-- The lock is never free again earlier than it was.
theorem free_after {rs : List Request} {d : Desk σ} (admitted : Admitted source rs d) {f : Nat}
    (free : (d.after source rs).free = some f) : ∃ g, d.free = some g ∧ g ≤ f := by
  induction rs generalizing d with
  | nil => exact ⟨f, free, Nat.le_refl f⟩
  | cons r rs ih =>
    rcases ih admitted.2 free with ⟨g, held, le⟩
    rcases Desk.free_serve admitted.1 held with ⟨h, before, less⟩
    exact ⟨h, before, Nat.le_trans less le⟩

-- The lock is free once all turns are over.
theorem ended_of_free {rs : List Request} {d : Desk σ} (admitted : Admitted source rs d) {f : Nat}
    (free : (d.after source rs).free = some f) {t : Turn} (mem : t ∈ turns source rs d) :
    ∃ o, t.ended = some o ∧ o ≤ f := by
  induction rs generalizing d with
  | nil => exact absurd mem List.not_mem_nil
  | cons r rs ih =>
    rw [turns, List.mem_append, Option.mem_toList] at mem
    rcases mem with first | later
    · rcases Desk.serve_cases admitted.1 with ⟨same, _⟩ | ⟨h, u, e, _, _, served, takes⟩
      · rw [same] at first
        exact absurd first (by simp)
      · rw [served] at first
        rcases free_after admitted.2 free with ⟨g, held, le⟩
        rw [served] at held
        rw [← Option.some.inj first]
        exact ⟨g, takes.ended.trans held, le⟩
    · exact ih admitted.2 free later

end Turns

/-- A call that was not served until now, although the lock is free since an
    earlier instant. Its caller waits, or left the line in time. -/
structure Request.Unserved (free now : Nat) (r : Request) : Prop where
  /-- It was asked by now. -/
  asked : r.asked ≤ now
  /-- If its caller waits, its turn has only just come. -/
  waits : r.left = none → now ≤ max r.asked free
  /-- If its caller left, its turn had at most just come. -/
  inLine : ∀ d, r.left = some d → ∃ i, d = .inLine i ∧ r.asked ≤ i ∧ i ≤ max r.asked free

/-- Callers may leave who could not be served yet. -/
theorem admitted_of_unserved {σ : Type} {source : NonceSource σ} {rs : List Request} {d : Desk σ}
    (bound now : Nat) (unserved : ∀ r ∈ rs, r.Unserved bound now)
    (free : ∀ f, d.free = some f → bound ≤ f) : Admitted source rs d := by
  induction rs generalizing d with
  | nil => trivial
  | cons r rs ih =>
    have head : d.admits source r := by
      cases left : r.left with
      | none => exact Desk.admits_of_none left
      | some departure =>
        unfold Desk.admits
        rw [left]
        rcases (unserved r List.mem_cons_self).inLine departure left with ⟨i, rfl, asked, le⟩
        refine ⟨asked, fun f held => ?_⟩
        have := free f held
        omega
    refine ⟨head, ih (fun q mem => unserved q (List.mem_cons_of_mem r mem)) fun g held => ?_⟩
    rcases Desk.free_serve head held with ⟨f, before, le⟩
    exact Nat.le_trans (free f before) le

end Nonce

end TxRelay
