import TxRelay.Proofs.Metrics.Counting
import TxRelay.Proofs.Nonce.Gapless
import TxRelay.Proofs.Nonce.Linear

/-!
# The Books of a Nonce Tracker

What a tracker holds, what it counts and what it asks of the chain are three records
of the same calls. An account comes into the table with a nonce of the chain's and
goes with a reset that finds it; every nonce is counted under its origin; and a query
ends with a nonce, with a failure, with a crash or with its caller leaving, if it is
not still under way. The journal of a run lists the calls, so the three records are
compared with it, call by call.

The counters of nonces stop at `2 ^ 53`. The balance of the calls does not depend on
it, and as long as no more nonces were handed out the counters balance themselves.

## Main definitions

* `Nonce.allocatedFrom`, `failures`, `forgotten`, `crashes`, `abandoned`: How calls
  ended, by number.
* `Nonce.queries`: What the chain was asked.
* `Nonce.Balanced`: The table, the counters and the queries agree with the calls.

## Theorems

* `Nonce.Table.keys_set_of_none`, `keys_set_of_some`, `keys_erase`: The accounts of a
  table after a change.
* `Nonce.Entered.of_serve`, `Entered.of_seed`: What a call that ends adds to the books.
* `Nonce.Balanced.kept`: Every step keeps the balance.
* `Nonce.bookkeeping_balances`: In every run the books balance.
-/

namespace TxRelay

/-- The account that the chain was asked about. -/
def Act.query? : Act → Option Address
  | .query account => some account
  | _ => none

-- Origins are counted under labels of their own.
theorem NonceOrigin.label_ne {o p : NonceOrigin} (differ : o ≠ p) : o.label ≠ p.label := by
  cases o <;> cases p <;> first | exact absurd rfl differ | decide

namespace Nonce

/-- The accounts that the chain was asked about, the latest first. -/
def queries (acts : List (Nat × Act)) : List Address :=
  acts.filterMap fun a => a.2.query?

namespace Ended

/-- Where a nonce comes from that ends the call. -/
def source (e : Ended) : NonceOrigin :=
  if e.reply.isSome then .chain else .cache

/-- Where the nonce came from that the caller was given, if it was given one. -/
def origin? (e : Ended) : Option NonceOrigin :=
  e.nonce?.map fun _ => e.source

/-- Whether the caller was told of a failure. -/
def fails (e : Ended) : Bool :=
  match e.result with
  | .failed _ => true
  | _ => false

/-- Whether the query took the caller down. -/
def crashes (e : Ended) : Bool :=
  match e.reply with
  | some (.crash _) => true
  | _ => false

end Ended

/-- Whether the caller left in the middle of its query. -/
def Request.abandons (r : Request) : Bool :=
  match r.left with
  | some (.inQuery _) => true
  | _ => false

/-- How many nonces of an origin were handed out. -/
def allocatedFrom (o : NonceOrigin) (es : List Ended) : Nat :=
  es.countP fun e => e.origin? = some o

/-- How many calls failed. -/
def failures (es : List Ended) : Nat :=
  es.countP Ended.fails

/-- How many resets found their account. -/
def forgotten (es : List Ended) : Nat :=
  es.countP Ended.forgets

/-- How many queries took their callers down. -/
def crashes (es : List Ended) : Nat :=
  es.countP Ended.crashes

/-- How many callers left in the middle of their queries. -/
def abandoned (rs : List Request) : Nat :=
  rs.countP Request.abandons

section Tallies

variable {es : List Ended} {e : Ended} {o : NonceOrigin}

-- A nonce has one origin.
theorem Ended.origin?_of_some {n : UInt64} (given : e.nonce? = some n) :
    e.origin? = some e.source := by
  rw [origin?, given]
  rfl

theorem Ended.origin?_of_none (kept : e.nonce? = none) : e.origin? = none := by
  rw [origin?, kept]
  rfl

theorem allocatedFrom_cons :
    allocatedFrom o (e :: es) = allocatedFrom o es + if e.origin? = some o then 1 else 0 := by
  simp only [allocatedFrom, List.countP_cons, decide_eq_true_eq]

-- Every nonce has one of two origins.
theorem allocatedFrom_chain_add_cache (es : List Ended) :
    allocatedFrom .chain es + allocatedFrom .cache es = (nonces es).length := by
  unfold nonces
  induction es with
  | nil => rfl
  | cons e es ih =>
    rw [allocatedFrom_cons, allocatedFrom_cons]
    cases given : e.nonce? with
    | none =>
      rw [List.filterMap_cons_none given, ← ih, Ended.origin?_of_none given]
      rfl
    | some n =>
      rw [List.filterMap_cons_some given, List.length_cons, ← ih, Ended.origin?_of_some given]
      cases e.source
      · exact (Nat.add_assoc _ _ _).symm
      · exact Nat.add_right_comm _ _ _

-- What one more call adds.
theorem allocatedFrom_snoc :
    allocatedFrom o (es ++ [e]) = allocatedFrom o es + allocatedFrom o [e] :=
  List.countP_append

theorem failures_snoc : failures (es ++ [e]) = failures es + failures [e] :=
  List.countP_append

theorem forgotten_snoc : forgotten (es ++ [e]) = forgotten es + forgotten [e] :=
  List.countP_append

theorem crashes_snoc : crashes (es ++ [e]) = crashes es + crashes [e] :=
  List.countP_append

end Tallies

namespace Table

variable {t : Table} {account : Address}

-- An account is found if it is among those of the table.
theorem get?_eq_none_iff : t.get? account = none ↔ account ∉ t.map Prod.fst := by
  unfold get?
  rw [List.lookup_eq_none_iff]
  simp only [bne_iff_ne, ne_eq, List.mem_map, not_exists, not_and, eq_comm (a := account)]

/-- A new account comes last. -/
theorem keys_set_of_none (unknown : t.get? account = none) (n : UInt64) :
    (t.set account n).map Prod.fst = t.map Prod.fst ++ [account] := by
  rw [get?_eq_none_iff] at unknown
  induction t with
  | nil => rfl
  | cons entry rest ih =>
    rw [List.map_cons, List.mem_cons, not_or] at unknown
    rw [set, if_neg unknown.1, List.map_cons, ih unknown.2]
    rfl

/-- Noting a nonce of an account that is there brings no new one. -/
theorem keys_set_of_some {m : UInt64} (found : t.get? account = some m) (n : UInt64) :
    (t.set account n).map Prod.fst = t.map Prod.fst := by
  induction t with
  | nil => exact absurd found (Option.some_ne_none m).symm
  | cons entry rest ih =>
    obtain ⟨a, k⟩ := entry
    by_cases same : account = a
    · rw [set, if_pos same]
      rfl
    · have other : (account == a) = false := beq_false_of_ne same
      rw [get?, List.lookup_cons, other] at found
      rw [set, if_neg same, List.map_cons, ih found]
      rfl

/-- Forgetting an account leaves the others. -/
theorem keys_erase (account : Address) (t : Table) :
    (t.erase account).map Prod.fst = (t.map Prod.fst).filter (· != account) := by
  induction t with
  | nil => rfl
  | cons entry rest ih =>
    obtain ⟨a, k⟩ := entry
    by_cases same : account = a
    · have out : (a != account) = false := bne_eq_false_iff_eq.mpr same.symm
      rw [erase, if_pos same, ih, List.map_cons, List.filter_cons, out]
      rfl
    · have here : (a != account) = true := bne_iff_ne.mpr (Ne.symm same)
      rw [erase, if_neg same, List.map_cons, ih, List.map_cons, List.filter_cons, here]
      rfl

-- Noting the first nonce of an account makes the table longer by one.
theorem length_set_of_none (unknown : t.get? account = none) (n : UInt64) :
    (t.set account n).length = t.length + 1 := by
  simpa using congrArg List.length (keys_set_of_none unknown n)

theorem length_set_of_some {m : UInt64} (found : t.get? account = some m) (n : UInt64) :
    (t.set account n).length = t.length := by
  simpa using congrArg List.length (keys_set_of_some found n)

-- Forgetting an account that is there makes the table shorter by one.
theorem length_erase (distinct : (t.map Prod.fst).Nodup) (account : Address) :
    (t.erase account).length + (if (t.get? account).isSome then 1 else 0) = t.length := by
  have keys := congrArg List.length (keys_erase account t)
  rw [List.length_map, ← distinct.erase_eq_filter account] at keys
  rw [keys]
  cases found : t.get? account with
  | none =>
    rw [List.erase_of_not_mem (get?_eq_none_iff.mp found), List.length_map]
    rfl
  | some n =>
    have mem : account ∈ t.map Prod.fst := by
      refine Decidable.of_not_not fun absent => ?_
      exact absurd (found.symm.trans (get?_eq_none_iff.mpr absent)) (Option.some_ne_none n)
    have one : 0 < (t.map Prod.fst).length := List.length_pos_of_mem mem
    rw [List.length_erase_of_mem mem, Option.isSome_some, if_pos rfl, Nat.sub_add_cancel one,
      List.length_map]

end Table

/-- What a call that ends makes of a table, in numbers. -/
structure Entered (t u : Table) (e : Ended) : Prop where
  /-- No account is there twice. -/
  distinct : (u.map Prod.fst).Nodup
  /-- An account comes with a nonce of the chain's and goes with a reset. -/
  tracked : u.length + forgotten [e] = t.length + allocatedFrom .chain [e]
  /-- Whoever asks for the number of accounts is told it. -/
  told : e.call = .count → e.result = .tracked t.length
  /-- A query that ends does so in one of three ways. -/
  asked : allocatedFrom .chain [e] + failures [e] + crashes [e] = e.reply.toList.length

namespace Entered

variable {t : Table} (distinct : (t.map Prod.fst).Nodup)

include distinct

/-- A call that is served at once. -/
theorem of_serve {call : Call} (known : t.query? call = none) (instant ticket : Nat) :
    Entered t (t.serve call unasked).2
      ⟨instant, ticket, call, none, (t.serve call unasked).1⟩ := by
  cases call with
  | allocate account =>
    cases found : t.get? account with
    | none => simp [Table.query?, found] at known
    | some n =>
      simp only [Table.serve, found, Table.advance]
      split
      · exact ⟨distinct, rfl, fun same => absurd same (by simp), rfl⟩
      · refine ⟨?_, ?_, fun same => absurd same (by simp), rfl⟩
        · rw [Table.keys_set_of_some found]
          exact distinct
        · exact Table.length_set_of_some found _
  | reset account =>
    refine ⟨?_, ?_, fun same => absurd same (by simp), rfl⟩
    · rw [Table.serve, Table.keys_erase]
      exact distinct.filter _
    · rw [← Table.length_erase distinct account]
      cases found : t.get? account <;>
        simp [Table.serve, found, forgotten, Ended.forgets, allocatedFrom, Ended.origin?,
          Ended.nonce?]
  | count => exact ⟨distinct, rfl, fun _ => rfl, rfl⟩

/-- The chain's reply arrives. -/
theorem of_seed {account : Address} (unknown : t.get? account = none) (outcome : Outcome UInt64)
    (instant ticket : Nat) :
    Entered t (t.seed account outcome).2
      ⟨instant, ticket, .allocate account, some outcome, (t.seed account outcome).1⟩ := by
  cases outcome with
  | value n =>
    refine ⟨?_, ?_, fun same => absurd same (by simp), rfl⟩
    · rw [Table.seed, Table.keys_set_of_none unknown]
      exact List.nodup_append.mpr ⟨distinct, List.pairwise_singleton _ _, fun a here b there same =>
        Table.get?_eq_none_iff.mp unknown (List.mem_singleton.mp there ▸ same ▸ here)⟩
    · exact Table.length_set_of_none unknown n
  | failure f => exact ⟨distinct, rfl, fun same => absurd same (by simp), rfl⟩
  | crash text => exact ⟨distinct, rfl, fun same => absurd same (by simp), rfl⟩

end Entered

/-- The counters show how calls ended. -/
structure Counted (es : List Ended) (m : Metrics) : Prop where
  /-- Labels are in order. -/
  sorted : m.allocated.Sorted
  /-- Nonces are counted by origin. -/
  allocated : ∀ o : NonceOrigin, m.allocated.value o.label = Counter.shown (allocatedFrom o es)
  /-- Failures are counted. -/
  failures : m.queryFailures = failures es

namespace Counted

-- Nothing was counted yet.
theorem zero : Counted [] .zero :=
  ⟨List.Pairwise.nil, fun _ => rfl, rfl⟩

/-- A call that ends is counted once. -/
theorem snoc {es : List Ended} {m : Metrics} (c : Counted es m) (e : Ended) :
    Counted (es ++ [e]) (e.result.record e.source m) := by
  -- Only a nonce and a failure are counted.
  have still (kept : e.nonce? = none) (fine : e.fails = false) : Counted (es ++ [e]) m := by
    refine ⟨c.sorted, fun o => ?_, ?_⟩
    · rw [allocatedFrom_snoc, allocatedFrom_cons, Ended.origin?_of_none kept]
      exact c.allocated o
    · rw [failures_snoc, Nonce.failures, Nonce.failures, List.countP_singleton, fine]
      exact c.failures
  cases result : e.result with
  | nonce n =>
    have given : e.nonce? = some n := by rw [Ended.nonce?, result]
    have fine : e.fails = false := by rw [Ended.fails, result]
    refine ⟨Labelled.sorted_adjust c.sorted, fun o => ?_, ?_⟩
    · have others := c.allocated o
      rw [allocatedFrom_snoc, allocatedFrom_cons, Ended.origin?_of_some given]
      by_cases same : e.source = o
      · rw [if_pos (congrArg some same), ← same]
        rw [← same] at others
        exact (Labelled.value_count_self _ 1 c.sorted).trans
          (others ▸ Counter.add_shown (allocatedFrom e.source es))
      · rw [if_neg fun h => same (Option.some.inj h)]
        exact (Labelled.value_count_other 1 _ (NonceOrigin.label_ne (Ne.symm same))).trans others
    · rw [failures_snoc, Nonce.failures, Nonce.failures, List.countP_singleton, fine]
      exact c.failures
  | failed f =>
    have kept : e.nonce? = none := by rw [Ended.nonce?, result]
    have fails : e.fails = true := by rw [Ended.fails, result]
    refine ⟨c.sorted, fun o => ?_, ?_⟩
    · rw [allocatedFrom_snoc, allocatedFrom_cons, Ended.origin?_of_none kept]
      exact c.allocated o
    · rw [failures_snoc, ← c.failures, Nonce.failures, List.countP_singleton, if_pos fails]
      rfl
  | removed present => exact still (by rw [Ended.nonce?, result]) (by rw [Ended.fails, result])
  | tracked n => exact still (by rw [Ended.nonce?, result]) (by rw [Ended.fails, result])
  | crashed text => exact still (by rw [Ended.nonce?, result]) (by rw [Ended.fails, result])

end Counted

section Queries

variable {σ : Type} {source : NonceSource σ} {world : σ} {j : Journal σ} {rs : List Request}

theorem queries_cons_query (now : Nat) (account : Address) (acts : List (Nat × Act)) :
    queries ((now, .query account) :: acts) = account :: queries acts :=
  rfl

-- Who leaves the line had no query.
theorem abandoned_leave_line (ticket now : Nat) :
    abandoned (rs.map (Request.leave ticket (some (.inLine now)))) = abandoned rs := by
  rw [abandoned, abandoned, List.countP_map]
  refine congrArg (fun p => List.countP p rs) (funext fun r => ?_)
  rw [Function.comp_apply, Request.leave]
  split
  · unfold Request.abandons
    cases left : r.left <;> rfl
  · rfl

-- A caller who leaves in the middle of its query is one more.
theorem InTurn.abandoned_leave_query (o : InTurn source world j) (ordered : Ordered j) {h : Holder}
    (holder : j.tracker.holder = some h) (now : Nat) :
    abandoned (j.requests.map (Request.leave h.ticket (some (.inQuery now)))) =
      abandoned j.requests + 1 := by
  rcases o with ⟨past, ahead, since, d, o⟩ | ⟨past, r, ahead, account, since, d, o⟩
  · exact absurd (o.holder.symm.trans holder) (Option.some_ne_none h).symm
  · have held := Option.some.inj (holder.symm.trans o.holder)
    subst held
    rcases o.map_leave ordered (.inQuery now) with ⟨gone, requests⟩
    have stays : r.abandons = false := by rw [Request.abandons, o.left]
    have leaves : (r.leave r.ticket (some (.inQuery now))).abandons = true := by
      rw [Request.abandons, gone]
    rw [requests, o.requests]
    simp only [abandoned, List.countP_append, List.countP_cons, stays, leaves, if_true,
      Bool.false_eq_true, if_false]
    rfl

end Queries

/-- Whoever asked for the number of accounts was told what the calls before it
    had left. -/
def Told (es : List Ended) : Prop :=
  ∀ before e after, es = before ++ e :: after → e.call = .count →
    ∃ n, e.result = .tracked n ∧ n + forgotten before = allocatedFrom .chain before

-- One more call ended.
theorem Told.snoc {es : List Ended} {e : Ended} (t : Told es)
    (last : e.call = .count →
      ∃ n, e.result = .tracked n ∧ n + forgotten es = allocatedFrom .chain es) :
    Told (es ++ [e]) := by
  intro before x after split
  rcases cut_snoc split with ⟨rfl, rfl, -⟩ | ⟨rest, -, cut⟩
  · exact last
  · exact t before x rest cut

/-- The table, the counters and the queries agree with the calls. -/
structure Balanced {σ : Type} (j : Journal σ) : Prop where
  /-- No account is in the table twice. -/
  distinct : (j.tracker.table.map Prod.fst).Nodup
  /-- The table holds the accounts that came and did not go. -/
  tracked : j.tracker.table.length + forgotten j.ended = allocatedFrom .chain j.ended
  /-- So it did whenever somebody asked. -/
  told : Told j.ended
  /-- The counters show how calls ended. -/
  counted : Counted j.ended j.tracker.outside.metrics
  /-- Every query has ended in some way or is under way. -/
  asked : (queries j.tracker.outside.acts).length =
    allocatedFrom .chain j.ended + failures j.ended + crashes j.ended + abandoned j.requests +
      j.tracker.holder.toList.length

namespace Balanced

variable {σ : Type} {source : NonceSource σ} {world : σ} {j k : Journal σ}

-- Nothing was asked yet.
theorem fresh (world : σ) : Balanced (Journal.fresh world) :=
  { distinct := List.Pairwise.nil
    tracked := rfl
    told := fun before e after split => absurd split (by simp [Journal.fresh])
    counted := .zero
    asked := rfl }

/-- A call that ends keeps the balance. Its query, if it had one, is not under
    way any more. -/
theorem snoc (b : Balanced j) {e : Ended} (entered : Entered j.tracker.table k.tracker.table e)
    (ended : k.ended = j.ended ++ [e]) (requests : k.requests = j.requests)
    (acts : k.tracker.outside.acts = j.tracker.outside.acts)
    (metrics : k.tracker.outside.metrics = e.result.record e.source j.tracker.outside.metrics)
    (free : k.tracker.holder = none)
    (query : j.tracker.holder.toList.length = e.reply.toList.length) : Balanced k := by
  have tracked := b.tracked
  have change := entered.tracked
  refine ⟨entered.distinct, ?_, ?_, ?_, ?_⟩
  · rw [ended, forgotten_snoc, allocatedFrom_snoc]
    omega
  · rw [ended]
    exact b.told.snoc fun count => ⟨_, entered.told count, tracked⟩
  · rw [ended, metrics]
    exact b.counted.snoc e
  · have asked := b.asked
    have ends := entered.asked
    rw [ended, requests, acts, free, asked, allocatedFrom_snoc, failures_snoc, crashes_snoc,
      Option.toList_none, List.length_nil]
    omega

/-- Every step keeps the balance. -/
theorem kept (step : Step source j k) (ordered : Ordered j) (inTurn : InTurn source world j)
    (cells : Cells j) (b : Balanced j) : Balanced k := by
  cases step with
  | ask call =>
    refine { b with asked := b.asked.trans ?_ }
    simp only [abandoned, List.countP_append, List.countP_singleton]
    rfl
  | leaveLine waits other =>
    exact { b with asked := b.asked.trans (by rw [abandoned_leave_line]) }
  | leaveQuery holder =>
    refine { b with asked := b.asked.trans ?_ }
    rw [inTurn.abandoned_leave_query ordered holder, holder]
    rfl
  | serve free waiting known =>
    exact b.snoc (.of_serve b.distinct known _ _) rfl rfl rfl rfl free (by rw [free]; rfl)
  | query free waiting unknown =>
    refine { b with asked := ?_ }
    show (queries ((_, .query _) :: j.tracker.outside.acts)).length = _
    rw [queries_cons_query, List.length_cons, b.asked, free]
    rfl
  | arrive holder answer =>
    refine b.snoc (.of_seed b.distinct (cells.held _ holder) _ _ _) rfl rfl rfl rfl rfl ?_
    rw [holder]
    rfl
  | wait limit later rest => exact ⟨b.distinct, b.tracked, b.told, b.counted, b.asked⟩

end Balanced

/-- In every run the books balance, whatever calls are made and given up at any
    times and whatever the chain replies. As long as the counters of nonces have
    not stopped, what they show balances. -/
theorem bookkeeping_balances {σ : Type} (source : NonceSource σ) (world : σ)
    (moves : List Move) :
    let j := (Journal.fresh world).play source moves
    let m := j.tracker.outside.metrics
    let counted (o : NonceOrigin) := m.allocated.value o.label
    j.tracker = (Tracker.fresh world).play source moves ∧ Ordered j ∧ Balanced j ∧
      allocatedFrom .chain j.ended + allocatedFrom .cache j.ended = (nonces j.ended).length ∧
      m.queryFailures = failures j.ended ∧
      ((nonces j.ended).length ≤ Counter.limit →
        j.tracker.table.length + forgotten j.ended = counted .chain ∧
        counted .chain + counted .cache = (nonces j.ended).length ∧
        (queries j.tracker.outside.acts).length =
          counted .chain + m.queryFailures + crashes j.ended + abandoned j.requests +
            if j.tracker.holder.isSome then 1 else 0) := by
  intro j m counted
  have kept : Ordered j ∧ InTurn source world j ∧ Cells j ∧ Balanced j :=
    Journal.step_induction source (P := fun j => InTurn source world j ∧ Cells j ∧ Balanced j)
      (fun _ _ ordered step all => ⟨all.1.kept step ordered, all.2.1.kept step,
        all.2.2.kept step ordered all.1 all.2.1⟩)
      moves _ (Ordered.fresh world) ⟨.fresh world, .fresh world, .fresh world⟩
  rcases kept with ⟨ordered, -, -, b⟩
  have sum := allocatedFrom_chain_add_cache j.ended
  refine ⟨Journal.tracker_play source moves _, ordered, b, sum, b.counted.failures,
    fun small => ?_⟩
  have chain : counted .chain = allocatedFrom .chain j.ended :=
    (b.counted.allocated .chain).trans (Counter.shown_eq (by omega))
  have cache : counted .cache = allocatedFrom .cache j.ended :=
    (b.counted.allocated .cache).trans (Counter.shown_eq (by omega))
  have holds : j.tracker.holder.toList.length = if j.tracker.holder.isSome then 1 else 0 := by
    cases j.tracker.holder <;> rfl
  rw [chain, cache, b.counted.failures, ← holds]
  exact ⟨b.tracked, sum, b.asked⟩

end Nonce

end TxRelay
