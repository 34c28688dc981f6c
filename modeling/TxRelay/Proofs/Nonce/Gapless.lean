import TxRelay.Proofs.Nonce.Journal

/-!
# Nonces Without Gaps

The calls for one account that ended, in the order of ending, tell what the
table holds for it: nothing until the chain's reply is noted, one more with
every nonce handed out, and nothing again once a reset finds it. `Next` says
what one call comes to and what it leaves, without naming the table; `Follows`
chains such calls. Every move keeps a journal in which the calls of each
account follow one another from an empty cell to the one in the table.

Between two resets that found the account the cell is emptied by nobody. The
nonces of such a piece therefore count up from the one reply that filled it.

## Main definitions

* `Nonce.Next`, `Nonce.Follows`: What calls for an account make of its nonce.
* `Nonce.Cells`: The table holds what the calls that ended left there.
* `Nonce.Gapless`: A piece between two resets hands out every nonce once.

## Theorems

* `Nonce.cut_snoc`: Where a list that was extended is cut.
* `Nonce.Cells.kept`: Every step keeps the cells.
* `Nonce.Follows.pieces`: Calls that follow one another do so in every piece.
* `Nonce.nonces_gap_free`: Nonces are handed out in the order of asking,
  without a gap and never twice.
-/

namespace TxRelay

namespace Nonce

namespace Ended

/-- The nonce a caller was given. -/
def nonce? (e : Ended) : Option UInt64 :=
  match e.result with
  | .nonce n => some n
  | _ => none

/-- The nonce the chain named. -/
def seed? (e : Ended) : Option UInt64 :=
  match e.reply with
  | some (.value n) => some n
  | _ => none

/-- Whether a call is about an account. -/
def concerns (account : Address) (e : Ended) : Bool :=
  match e.call with
  | .allocate a | .reset a => a = account
  | .count => false

/-- Whether a call made the tracker forget its account. -/
def forgets (e : Ended) : Bool :=
  e.result = .removed true

end Ended

/-- The nonces that calls were given, in order. -/
def nonces (es : List Ended) : List UInt64 :=
  es.filterMap Ended.nonce?

/-- The nonces that the chain named, in order. -/
def seeds (es : List Ended) : List UInt64 :=
  es.filterMap Ended.seed?

-- A list that was extended is cut at its end, or before it.
theorem cut_snoc {α : Type} {before after xs : List α} {x last : α}
    (cut : xs ++ [last] = before ++ x :: after) :
    (before = xs ∧ x = last ∧ after = []) ∨
      ∃ rest, after = rest ++ [last] ∧ xs = before ++ x :: rest := by
  rcases List.eq_nil_or_concat after with rfl | ⟨rest, y, rfl⟩
  · rcases List.append_inj' cut rfl with ⟨rfl, same⟩
    exact Or.inl ⟨rfl, (List.singleton_inj.mp same).symm, rfl⟩
  · rw [List.concat_eq_append, ← List.cons_append, ← List.append_assoc] at cut
    rcases List.append_inj' cut rfl with ⟨rfl, same⟩
    refine Or.inr ⟨rest, ?_, rfl⟩
    rw [List.concat_eq_append, List.singleton_inj.mp same]

/-- What a call for an account makes of the nonce handed out last. -/
inductive Next (account : Address) : Option UInt64 → Ended → Option UInt64 → Prop where
  /-- The first nonce is the chain's. -/
  | seeds {e : Ended} {n : UInt64} (call : e.call = .allocate account)
      (reply : e.reply = some (.value n)) (result : e.result = .nonce n) :
      Next account none e (some n)
  /-- A query that fails leaves nothing. -/
  | fails {e : Ended} {f : Failure} (call : e.call = .allocate account)
      (reply : e.reply = some (.failure f)) (result : e.result = .failed f) :
      Next account none e none
  /-- So does one that crashes. -/
  | crashes {e : Ended} {text : String} (call : e.call = .allocate account)
      (reply : e.reply = some (.crash text)) (result : e.result = .crashed text) :
      Next account none e none
  /-- A later nonce is one more, and the chain is not asked. -/
  | counts {e : Ended} {n : UInt64} (room : n.toNat + 1 < UInt64.size)
      (call : e.call = .allocate account) (reply : e.reply = none)
      (result : e.result = .nonce (n + 1)) :
      Next account (some n) e (some (n + 1))
  /-- After the largest nonce the call crashes. -/
  | full {e : Ended} {n : UInt64} (full : n.toNat + 1 = UInt64.size)
      (call : e.call = .allocate account) (reply : e.reply = none)
      (result : e.result = .crashed overflowText) :
      Next account (some n) e (some n)
  /-- A reset forgets the account. -/
  | forgets {e : Ended} {n : UInt64} (call : e.call = .reset account) (reply : e.reply = none)
      (result : e.result = .removed true) :
      Next account (some n) e none
  /-- There was nothing to forget. -/
  | absent {e : Ended} (call : e.call = .reset account) (reply : e.reply = none)
      (result : e.result = .removed false) :
      Next account none e none

/-- What several calls for an account, one after another, make of its nonce. -/
inductive Follows (account : Address) : Option UInt64 → List Ended → Option UInt64 → Prop where
  | nil (c : Option UInt64) : Follows account c [] c
  | cons {c d : Option UInt64} {e : Ended} {es : List Ended} {last : Option UInt64}
      (next : Next account c e d) (rest : Follows account d es last) :
      Follows account c (e :: es) last

section Cell

variable {account : Address} {c d f : Option UInt64} {e : Ended} {es : List Ended}

-- One more call follows.
theorem Follows.snoc (first : Follows account c es d) (next : Next account d e f) :
    Follows account c (es ++ [e]) f := by
  induction first with
  | nil c => exact .cons next (.nil f)
  | cons head _ ih => exact .cons head (ih next)

-- Only a reset that finds the account empties the cell.
theorem Next.remembers (next : Next account c e d) (stays : e.forgets = false) :
    d = e.nonce?.or c := by
  cases next with
  | forgets call reply result => simp [Ended.forgets, result] at stays
  | _ => simp only [Ended.nonce?, *, Option.some_or, Option.none_or]

-- A reset that finds the account leaves nothing.
theorem Next.empties (next : Next account c e d) (goes : e.forgets = true) : d = none := by
  cases next with
  | forgets => rfl
  | _ => simp_all [Ended.forgets]

end Cell

namespace Table

-- The number after the largest nonce does not fit.
theorem eq_last_iff (n : UInt64) : n = last ↔ n.toNat + 1 = UInt64.size := by
  rw [← UInt64.toNat_inj]
  have size : UInt64.size = last.toNat + 1 := by decide
  omega

-- Handing out the next nonce is what a call for a known account does.
theorem next_advance {account : Address} {t : Table} {n : UInt64}
    (found : t.get? account = some n) (instant ticket : Nat) :
    Next account (some n) ⟨instant, ticket, .allocate account, none, (t.advance account n).1⟩
      ((t.advance account n).2.get? account) := by
  unfold advance
  by_cases full : n = last
  · rw [if_pos full, found]
    exact .full ((eq_last_iff n).mp full) rfl rfl rfl
  · rw [if_neg full, get?_set_self]
    refine .counts ?_ rfl rfl rfl
    have fits := n.toNat_lt_size
    have : n.toNat + 1 ≠ UInt64.size := fun same => full ((eq_last_iff n).mpr same)
    omega

-- Noting the chain's reply is what a call for a new account does.
theorem next_seed {account : Address} {t : Table} (unknown : t.get? account = none)
    (outcome : Outcome UInt64) (instant ticket : Nat) :
    Next account none
      ⟨instant, ticket, .allocate account, some outcome, (t.seed account outcome).1⟩
      ((t.seed account outcome).2.get? account) := by
  cases outcome with
  | value n =>
    rw [show (t.seed account (.value n)).2.get? account = some n from get?_set_self account n t]
    exact .seeds rfl rfl rfl
  | failure f =>
    rw [show (t.seed account (.failure f)).2.get? account = none from unknown]
    exact .fails rfl rfl rfl
  | crash text =>
    rw [show (t.seed account (.crash text)).2.get? account = none from unknown]
    exact .crashes rfl rfl rfl

-- Other accounts are left alone.
theorem get?_advance_other {account other : Address} (h : other ≠ account) (n : UInt64)
    (t : Table) : (t.advance account n).2.get? other = t.get? other := by
  unfold advance
  split
  · rfl
  · exact get?_set_other h (n + 1) t

theorem get?_seed_other {account other : Address} (h : other ≠ account) (outcome : Outcome UInt64)
    (t : Table) : (t.seed account outcome).2.get? other = t.get? other := by
  cases outcome with
  | value n => exact get?_set_other h n t
  | failure f => rfl
  | crash text => rfl

/-- A call that is served at once does what the cell of its account says. -/
theorem next_serve {call : Call} {t : Table} (known : t.query? call = none) (account : Address)
    (instant ticket : Nat) :
    let e : Ended := ⟨instant, ticket, call, none, (t.serve call unasked).1⟩
    (e.concerns account = true ∧
      Next account (t.get? account) e ((t.serve call unasked).2.get? account)) ∨
    (e.concerns account = false ∧ (t.serve call unasked).2.get? account = t.get? account) := by
  cases call with
  | allocate a =>
    cases found : t.get? a with
    | none => simp [query?, found] at known
    | some n =>
      simp only [serve, found, Ended.concerns, decide_eq_true_eq, decide_eq_false_iff_not]
      by_cases same : a = account
      · subst same
        rw [found]
        exact Or.inl ⟨rfl, next_advance found instant ticket⟩
      · exact Or.inr ⟨same, get?_advance_other (Ne.symm same) n t⟩
  | reset a =>
    simp only [serve, Ended.concerns, decide_eq_true_eq, decide_eq_false_iff_not]
    by_cases same : a = account
    · subst same
      rw [get?_erase_self]
      cases found : t.get? a with
      | none => exact Or.inl ⟨rfl, .absent rfl rfl rfl⟩
      | some n => exact Or.inl ⟨rfl, .forgets rfl rfl rfl⟩
    · exact Or.inr ⟨same, get?_erase_other (Ne.symm same) t⟩
  | count => exact Or.inr ⟨rfl, rfl⟩

end Table

/-- The table holds for every account what the calls that ended left there. -/
structure Cells {σ : Type} (j : Journal σ) : Prop where
  /-- The chain is asked for accounts that are not in the table. -/
  held : ∀ h, j.tracker.holder = some h → j.tracker.table.get? h.account = none
  /-- The calls for an account follow one another. -/
  follows : ∀ account, Follows account none (j.ended.filter (Ended.concerns account))
    (j.tracker.table.get? account)

namespace Cells

variable {σ : Type} {source : NonceSource σ} {j k : Journal σ}

-- Nothing was handed out yet.
theorem fresh (world : σ) : Cells (Journal.fresh world) :=
  ⟨fun _ held => absurd held (Option.some_ne_none _).symm, fun _ => .nil none⟩

-- A call that ended comes last among the calls of its account.
theorem append {account : Address} {es : List Ended} {e : Ended} {c d : Option UInt64}
    (before : Follows account none (es.filter (Ended.concerns account)) c)
    (last : (e.concerns account = true ∧ Next account c e d) ∨
      (e.concerns account = false ∧ d = c)) :
    Follows account none ((es ++ [e]).filter (Ended.concerns account)) d := by
  rw [List.filter_append]
  rcases last with ⟨mine, next⟩ | ⟨other, rfl⟩
  · rw [List.filter_cons_of_pos mine]
    exact before.snoc next
  · rw [List.filter_cons_of_neg (ne_true_of_eq_false other), List.filter_nil, List.append_nil]
    exact before

/-- Every step keeps the cells. -/
theorem kept (step : Step source j k) (o : Cells j) : Cells k := by
  cases step with
  | ask call => exact ⟨o.held, o.follows⟩
  | leaveLine waits other => exact ⟨o.held, o.follows⟩
  | leaveQuery holder =>
    exact ⟨fun _ held => absurd held (Option.some_ne_none _).symm, o.follows⟩
  | serve free waiting known =>
    refine ⟨fun h held => ?_, fun account => ?_⟩
    · exact absurd (free.symm.trans held) (Option.some_ne_none h).symm
    · exact append (o.follows account) (Table.next_serve known account _ _)
  | query free waiting unknown =>
    refine ⟨fun h held => ?_, o.follows⟩
    rw [← Option.some.inj held]
    exact unknown
  | @arrive h i outcome holder answer =>
    refine ⟨fun _ held => absurd held (Option.some_ne_none _).symm, fun account => ?_⟩
    refine append (o.follows account) ?_
    simp only [Ended.concerns, decide_eq_true_eq, decide_eq_false_iff_not, Tracker.release,
      Tracker.finish]
    by_cases same : h.account = account
    · subst same
      rw [o.held h holder]
      exact Or.inl ⟨rfl, Table.next_seed (o.held h holder) outcome _ _⟩
    · exact Or.inr ⟨same, Table.get?_seed_other (Ne.symm same) outcome _⟩
  | wait limit later rest => exact ⟨o.held, o.follows⟩

end Cells

/-- Calls between two resets that found the account. -/
structure Gapless (account : Address) (piece : List Ended) : Prop where
  /-- Nonces count up from the only reply that named one. -/
  upward : seeds piece = [] ∧ nonces piece = [] ∨
    ∃ p, seeds piece = [p] ∧ nonces piece ≠ [] ∧
      (nonces piece).map UInt64.toNat = List.range' p.toNat (nonces piece).length
  /-- The calls ended in the order in which they were asked. -/
  inOrder : piece.Pairwise fun a b => a.ticket < b.ticket
  /-- Every call does what the nonce handed out last says. After the largest
      one it crashes. -/
  each : ∀ before e after, piece = before ++ e :: after →
    ∃ next, Next account (nonces before).getLast? e next

namespace Follows

variable {account : Address} {c last : Option UInt64} {es : List Ended}

-- Calls that follow one another, cut at the resets that found the account. The
-- first piece goes on from where the calls began, every other from nothing.
theorem pieces (all : Follows account c es last) :
    ∃ first rest, es.splitOnP Ended.forgets = first :: rest ∧
      (first.Sublist es ∧ (∀ e ∈ first, e.forgets = false) ∧
        ∃ d, Follows account c first d) ∧
      ∀ piece ∈ rest, piece.Sublist es ∧ (∀ e ∈ piece, e.forgets = false) ∧
        ∃ d, Follows account none piece d := by
  induction all with
  | nil c =>
    refine ⟨[], [], List.splitOnP_nil, ⟨List.Sublist.refl _, ?_, c, .nil c⟩, ?_⟩
    · exact fun e mem => absurd mem List.not_mem_nil
    · exact fun piece mem => absurd mem List.not_mem_nil
  | @cons c d e es last next rest ih =>
    rcases ih with ⟨first, others, split, ⟨sub, stays, f, run⟩, each⟩
    rw [List.splitOnP_cons_eq_if_modifyHead, split]
    have each : ∀ piece ∈ others, piece.Sublist (e :: es) ∧
        (∀ e ∈ piece, e.forgets = false) ∧ ∃ d, Follows account none piece d :=
      fun piece mem => ⟨(each piece mem).1.cons e, (each piece mem).2⟩
    by_cases goes : e.forgets = true
    · rw [if_pos goes]
      rw [next.empties goes] at run
      refine ⟨[], first :: others, rfl, ⟨List.nil_sublist _, ?_, c, .nil c⟩, ?_⟩
      · exact fun e mem => absurd mem List.not_mem_nil
      · exact List.forall_mem_cons.mpr ⟨⟨sub.cons e, stays, f, run⟩, each⟩
    · rw [if_neg goes, List.modifyHead_cons]
      refine ⟨e :: first, others, rfl, ⟨sub.cons_cons e, ?_, f, .cons next run⟩, each⟩
      exact List.forall_mem_cons.mpr ⟨Bool.eq_false_iff.mpr goes, stays⟩

-- What the calls before leave is the last nonce among them.
theorem each (all : Follows account c es last) (stays : ∀ e ∈ es, e.forgets = false)
    {before after : List Ended} {e : Ended} (split : es = before ++ e :: after) :
    ∃ next, Next account ((nonces before).getLast?.or c) e next := by
  induction before generalizing c es with
  | nil =>
    subst split
    cases all with
    | cons next rest => exact ⟨_, next⟩
  | cons b before ih =>
    subst split
    cases all with
    | @cons _ d _ _ _ next rest =>
      have tail := ih rest (fun e mem => stays e (List.mem_cons_of_mem b mem)) rfl
      rw [next.remembers (stays b List.mem_cons_self)] at tail
      have shape : (nonces (b :: before)).getLast? =
          (nonces before).getLast?.or b.nonce? := by
        cases given : b.nonce? with
        | none => simp only [nonces, List.filterMap_cons, given, Option.or_none]
        | some n => simp only [nonces, List.filterMap_cons, given, List.getLast?_cons,
            Option.or_some]
      rw [shape, Option.or_assoc]
      exact tail

-- After a nonce the chain is not asked again, and nonces count up from there.
theorem counting {n : UInt64} (all : Follows account (some n) es last)
    (stays : ∀ e ∈ es, e.forgets = false) :
    seeds es = [] ∧
      (nonces es).map UInt64.toNat = List.range' (n.toNat + 1) (nonces es).length := by
  induction es generalizing n with
  | nil => exact ⟨rfl, rfl⟩
  | cons e es ih =>
    have later : ∀ e ∈ es, e.forgets = false := fun x mem => stays x (List.mem_cons_of_mem e mem)
    cases all with
    | cons next rest =>
      cases next with
      | counts room call reply result =>
        have tail := ih rest later
        have one : (n + 1).toNat = n.toNat + 1 := by
          rw [UInt64.toNat_add]
          exact Nat.mod_eq_of_lt room
        simp only [seeds, nonces, List.filterMap_cons, Ended.seed?, Ended.nonce?, reply, result,
          List.map_cons, List.length_cons, List.range'_succ, one] at tail ⊢
        exact ⟨tail.1, congrArg _ tail.2⟩
      | full full call reply result =>
        simp only [seeds, nonces, List.filterMap_cons, Ended.seed?, Ended.nonce?, reply, result]
        exact ih rest later
      | forgets call reply result =>
        have kept := stays e List.mem_cons_self
        simp [Ended.forgets, result] at kept

-- Before the first nonce every call leaves nothing; then the nonces count up.
theorem upward (all : Follows account none es last) (stays : ∀ e ∈ es, e.forgets = false) :
    seeds es = [] ∧ nonces es = [] ∨
      ∃ p, seeds es = [p] ∧ nonces es ≠ [] ∧
        (nonces es).map UInt64.toNat = List.range' p.toNat (nonces es).length := by
  induction es with
  | nil => exact Or.inl ⟨rfl, rfl⟩
  | cons e es ih =>
    have later : ∀ e ∈ es, e.forgets = false := fun x mem => stays x (List.mem_cons_of_mem e mem)
    cases all with
    | cons next rest =>
      cases next with
      | @seeds _ n call reply result =>
        have tail := rest.counting later
        refine Or.inr ⟨n, ?_⟩
        simp only [Nonce.seeds, nonces, List.filterMap_cons, Ended.seed?, Ended.nonce?, reply,
          result, List.map_cons, List.length_cons, List.range'_succ] at tail ⊢
        exact ⟨congrArg _ tail.1, List.cons_ne_nil _ _, congrArg _ tail.2⟩
      | fails call reply result =>
        simp only [Nonce.seeds, nonces, List.filterMap_cons, Ended.seed?, Ended.nonce?, reply,
          result]
        exact ih rest later
      | crashes call reply result =>
        simp only [Nonce.seeds, nonces, List.filterMap_cons, Ended.seed?, Ended.nonce?, reply,
          result]
        exact ih rest later
      | absent call reply result =>
        simp only [Nonce.seeds, nonces, List.filterMap_cons, Ended.seed?, Ended.nonce?, reply,
          result]
        exact ih rest later

end Follows

/-- Nonces are handed out in the order of asking, without a gap and never
    twice. This holds in every run, with any calls made and given up at any
    times, and any replies of the chain: the calls for an account, cut where a
    reset found it, are gapless pieces. -/
theorem nonces_gap_free {σ : Type} (source : NonceSource σ) (world : σ) (moves : List Move)
    (account : Address) :
    let j := (Journal.fresh world).play source moves
    j.tracker = (Tracker.fresh world).play source moves ∧ Ordered j ∧
      ∀ piece ∈ (j.ended.filter (Ended.concerns account)).splitOnP Ended.forgets,
        Gapless account piece := by
  intro j
  have kept : Ordered j ∧ Cells j :=
    Journal.step_induction source (fun _ _ _ step cells => cells.kept step) moves _
      (Ordered.fresh world) (Cells.fresh world)
  have sorted : (j.ended.filter (Ended.concerns account)).Pairwise
      fun a b => a.ticket < b.ticket := by
    have all := kept.1.sorted
    unfold Journal.calls at all
    rw [List.map_append, List.pairwise_append, List.map_map] at all
    exact (List.pairwise_map.mp all.1).sublist List.filter_sublist
  refine ⟨Journal.tracker_play source moves _, kept.1, ?_⟩
  rcases (kept.2.follows account).pieces with ⟨first, rest, split, one, others⟩
  rw [split]
  refine List.forall_mem_cons.mpr ⟨?_, fun piece mem => ?_⟩
  · rcases one with ⟨sub, stays, d, run⟩
    refine ⟨run.upward stays, sorted.sublist sub, fun before e after shape => ?_⟩
    rw [← Option.or_none (o := (nonces before).getLast?)]
    exact run.each stays shape
  · rcases others piece mem with ⟨sub, stays, d, run⟩
    refine ⟨run.upward stays, sorted.sublist sub, fun before e after shape => ?_⟩
    rw [← Option.or_none (o := (nonces before).getLast?)]
    exact run.each stays shape

end Nonce

end TxRelay
