import TxRelay.Proofs.Nonce.Gapless
import TxRelay.Provider

/-!
# Setbacks

A call for a nonce may come to nothing. The chain fails or crashes, the caller
leaves in the middle of the query, or the last nonce of the account was the
largest there is. None of these leaves a trace. The table is as it was, the lock
is free, and whoever is next in line finds what the call before had found.

An account whose last nonce is the largest stays so, and every further call for
one of its nonces crashes, until a reset makes the tracker forget it. Whatever
becomes of a call, other accounts do not notice.

## Main definitions

* `Nonce.Contained`: What a move leaves of the table.
* `Nonce.Setback`: How a call for a nonce ends without one.
* `Nonce.Released`: The lock is free, and the next in line finds the same table.
* `Nonce.Stuck`: What becomes of an account after its largest nonce.

## Theorems

* `Nonce.Contained.of_step`: A step touches only the account of the call it ends.
* `Nonce.Released.of_setback`: A call that ends without a nonce leaves no trace.
* `Nonce.Stuck.kept`: Every move leaves a full account full, unless it is reset.
* `Provider.Session.pendingCount_crash_iff`: A provider crashes on a count that is
  no nonce, and on nothing else.
* `Nonce.setbacks_leave_no_trace`: So it is in every run.
-/

namespace TxRelay

-- A count of the chain's may have more bits than a nonce.
theorem Provider.Session.pendingCount_crash_iff {σ : Type} (endpoints : Endpoints σ)
    (account : Address) (s : Session σ) (text : String) :
    (s.pendingCount endpoints account).1 = .crash text ↔
      text = castText ∧ ∃ n, (s.walk endpoints (.pendingCount account) (Rpc.quantity? 32)).1 =
        .value n ∧ UInt64.size ≤ n := by
  unfold pendingCount
  dsimp only
  generalize (s.walk endpoints (.pendingCount account) (Rpc.quantity? 32)).1 = ending
  cases ending with
  | value n =>
    simp only [query, Ending.value.injEq, exists_eq_left']
    by_cases small : n < UInt64.size
    · simp only [if_pos small, reduceCtorEq, Nat.not_le.mpr small, and_false]
    · simp only [if_neg small, Outcome.crash.injEq, Nat.le_of_not_lt small, and_true, eq_comm]
  | refused r => simp only [query, reduceCtorEq, false_and, exists_false, and_false]
  | exhausted => simp only [query, reduceCtorEq, false_and, exists_false, and_false]

namespace Nonce

/-- What a move leaves of the table. -/
inductive Contained {σ : Type} (j k : Journal σ) : Prop where
  /-- If no call ends, all of it. -/
  | quiet (ended : k.ended = j.ended) (table : k.tracker.table = j.tracker.table)
  /-- If one ends, all but the entry of its account. -/
  | ends (e : Ended) (ended : k.ended = j.ended ++ [e])
      (cells : ∀ account,
        e.concerns account = true ∧
            Next account (j.tracker.table.get? account) e (k.tracker.table.get? account) ∨
          e.concerns account = false ∧
            k.tracker.table.get? account = j.tracker.table.get? account)

/-- How a call for a nonce ends without one. -/
inductive Setback (t : Table) (account : Address) (e : Ended) : Prop where
  /-- The chain fails. -/
  | fails {f : Failure} (unknown : t.get? account = none) (reply : e.reply = some (.failure f))
      (result : e.result = .failed f)
  /-- The query crashes. -/
  | crashes {text : String} (unknown : t.get? account = none)
      (reply : e.reply = some (.crash text)) (result : e.result = .crashed text)
  /-- The largest nonce was handed out before. -/
  | full (full : t.get? account = some last) (reply : e.reply = none)
      (result : e.result = .crashed overflowText)

/-- The calls that did not end yet, the one that holds the lock first. -/
def Tracker.callers {σ : Type} (t : Tracker σ) : List (Nat × Call) :=
  t.holder.toList.map (fun h => (h.ticket, .allocate h.account)) ++ t.waiting

/-- A call came to nothing. The lock is free, and the next in line is served at
    the same instant, with the table that the call had found. -/
structure Released {σ : Type} (source : NonceSource σ) (gone : Nat × Call)
    (j k : Journal σ) : Prop where
  /-- The table is as it was. -/
  table : k.tracker.table = j.tracker.table
  /-- Nobody holds the lock. -/
  free : k.tracker.holder = none
  /-- All others keep their places. -/
  line : j.tracker.callers = gone :: k.tracker.waiting
  /-- The next call ends at once if the chain need not be asked. -/
  served : ∀ {ticket : Nat} {call : Call} {rest : List (Nat × Call)},
    k.tracker.waiting = (ticket, call) :: rest → j.tracker.table.query? call = none →
      (k.move source .work).ended = k.ended ++
          [⟨k.tracker.now, ticket, call, none, (j.tracker.table.serve call unasked).1⟩] ∧
        (k.move source .work).tracker.table = (j.tracker.table.serve call unasked).2 ∧
        (k.move source .work).tracker.waiting = rest
  /-- Otherwise it is given the lock. -/
  asks : ∀ {ticket : Nat} {account : Address} {rest : List (Nat × Call)},
    k.tracker.waiting = (ticket, .allocate account) :: rest →
      j.tracker.table.get? account = none →
        (k.move source .work).tracker.holder = some ⟨ticket, account,
            (source account k.tracker.outside.world).1.calledAt k.tracker.now⟩ ∧
          (k.move source .work).tracker.table = j.tracker.table ∧
          (k.move source .work).tracker.waiting = rest

/-- What becomes of an account after its largest nonce, told by the calls that
    ended since. -/
structure Stuck {σ : Type} (account : Address) (since : List Ended) (k : Journal σ) : Prop where
  /-- The table keeps it until a reset. -/
  full : (∀ e ∈ since, e.call ≠ .reset account) → k.tracker.table.get? account = some last
  /-- Until then every call for a nonce crashes. -/
  crashes : ∀ before e after, since = before ++ e :: after → e.call = .allocate account →
    (∀ x ∈ before, x.call ≠ .reset account) →
      e.reply = none ∧ e.result = .crashed overflowText

section Moves

variable {σ : Type} {source : NonceSource σ} {j k : Journal σ} {account : Address} {e : Ended}

/-- A step touches only the account of the call it ends. -/
theorem Contained.of_step (cells : Cells j) (step : Step source j k) : Contained j k := by
  cases step with
  | ask call => exact .quiet rfl rfl
  | leaveLine waits other => exact .quiet rfl rfl
  | leaveQuery holder => exact .quiet rfl rfl
  | serve free waiting known =>
    exact .ends _ rfl fun account => Table.next_serve known account _ _
  | query free waiting unknown => exact .quiet rfl rfl
  | @arrive h i outcome holder answer =>
    refine .ends _ rfl fun account => ?_
    simp only [Ended.concerns, decide_eq_true_eq, decide_eq_false_iff_not, Tracker.release,
      Tracker.finish]
    by_cases same : h.account = account
    · subst same
      rw [cells.held h holder]
      exact Or.inl ⟨rfl, Table.next_seed (cells.held h holder) outcome _ _⟩
    · exact Or.inr ⟨same, Table.get?_seed_other (Ne.symm same) outcome _⟩
  | wait limit later rest => exact .quiet rfl rfl

-- A move that is not possible touches nothing.
theorem Contained.of_move (ordered : Ordered j) (cells : Cells j) (m : Move) :
    Contained j (j.move source m) := by
  rcases Step.of_move source ordered m with same | step
  · rw [same]
    exact .quiet rfl rfl
  · exact .of_step cells step

-- Whoever is next in line is served from the table that is there.
theorem Released.of_free {gone : Nat × Call} (table : k.tracker.table = j.tracker.table)
    (free : k.tracker.holder = none) (line : j.tracker.callers = gone :: k.tracker.waiting) :
    Released source gone j k := by
  refine ⟨table, free, line, @fun ticket call rest waiting known => ?_,
    @fun ticket account rest waiting unknown => ?_⟩
  · rw [← table] at known ⊢
    have closing : k.tracker.closing? k.tracker.now =
        some ⟨k.tracker.now, ticket, call, none, (k.tracker.table.serve call unasked).1⟩ := by
      simp only [Tracker.closing?, free, waiting, known]
    simp only [Journal.move, Tracker.move, Tracker.closingOf?, Tracker.step?_waiting free waiting,
      Option.getD_some, closing]
    rw [Tracker.serve_of_known (t := { k.tracker with waiting := rest }) known]
    exact ⟨rfl, rfl, rfl⟩
  · rw [← table] at unknown ⊢
    simp only [Journal.move, Tracker.move, Tracker.step?_waiting free waiting, Option.getD_some]
    rw [Tracker.serve_of_unknown (t := { k.tracker with waiting := rest }) unknown]
    exact ⟨rfl, rfl, rfl⟩

/-- A call that ends without a nonce leaves no trace. -/
theorem Released.of_setback (cells : Cells j) (step : Step source j k)
    (ended : k.ended = j.ended ++ [e]) (call : e.call = .allocate account)
    (kept : e.nonce? = none) :
    Setback j.tracker.table account e ∧ Released source (e.ticket, e.call) j k := by
  have quiet (same : j.ended = j.ended ++ [e]) : False :=
    List.cons_ne_nil e [] (List.self_eq_append_right.mp same)
  cases step with
  | ask call => exact (quiet ended).elim
  | leaveLine waits other => exact (quiet ended).elim
  | leaveQuery holder => exact (quiet ended).elim
  | query free waiting unknown => exact (quiet ended).elim
  | wait limit later rest => exact (quiet ended).elim
  | serve free waiting known =>
    have same := List.singleton_inj.mp (List.append_cancel_left ended)
    subst same
    dsimp only at call
    subst call
    cases found : j.tracker.table.get? account with
    | none => simp [Table.query?, found] at known
    | some n =>
      simp only [Ended.nonce?, Table.serve, found, Table.advance] at kept
      by_cases full : n = last
      · subst full
        simp only [Table.serve, found, Table.advance, if_true]
        refine ⟨.full found rfl rfl, .of_free rfl free ?_⟩
        simp only [Tracker.callers, free, waiting, Tracker.finish]
        rfl
      · rw [if_neg full] at kept
        exact absurd kept (Option.some_ne_none _)
  | @arrive h i outcome holder answer =>
    have same := List.singleton_inj.mp (List.append_cancel_left ended)
    subst same
    have line : j.tracker.callers = (h.ticket, .allocate h.account) :: j.tracker.waiting := by
      rw [Tracker.callers, holder]
      rfl
    have unknown := cells.held h holder
    rw [Call.allocate.injEq] at call
    subst call
    cases outcome with
    | value n => exact absurd kept (Option.some_ne_none n)
    | failure f => exact ⟨.fails unknown rfl rfl, .of_free rfl rfl line⟩
    | crash text => exact ⟨.crashes unknown rfl rfl, .of_free rfl rfl line⟩

-- So does a caller who leaves in the middle of its query.
theorem Released.of_quit (ordered : Ordered j) {h : Holder} (holder : j.tracker.holder = some h) :
    Released source (h.ticket, .allocate h.account) j (j.move source (.quit h.ticket)) := by
  have quit : (j.move source (.quit h.ticket)).tracker = { j.tracker with holder := none } :=
    Tracker.quit_of_holder holder (ordered.not_in_line holder)
  refine .of_free (by rw [quit]) (by rw [quit]) ?_
  rw [quit, Tracker.callers, holder]
  rfl

-- After the largest nonce only a reset does not crash.
theorem Next.of_last {d : Option UInt64} (next : Next account (some last) e d)
    (stays : e.call ≠ .reset account) :
    d = some last ∧ e.reply = none ∧ e.result = .crashed overflowText := by
  cases next with
  | counts room call reply result =>
    have size : last.toNat + 1 = UInt64.size := by decide
    exact absurd (size ▸ room) (Nat.lt_irrefl _)
  | full full call reply result => exact ⟨rfl, reply, result⟩
  | forgets call reply result => exact absurd call stays

/-- Every move leaves a full account full, unless it is reset. -/
theorem Stuck.kept {since : List Ended} (s : Stuck account since j) (contained : Contained j k) :
    ∃ more, k.ended = j.ended ++ more ∧ Stuck account (since ++ more) k := by
  rcases contained with ⟨ended, table⟩ | ⟨e, ended, cells⟩
  · refine ⟨[], by rw [ended, List.append_nil], ?_⟩
    rw [List.append_nil]
    exact ⟨fun stays => table ▸ s.full stays, s.crashes⟩
  · -- The call that ends is about the account, or leaves it alone.
    have mine (before : ∀ x ∈ since, x.call ≠ .reset account) (stays : e.call ≠ .reset account) :
        k.tracker.table.get? account = some last ∧
          (e.call = .allocate account → e.reply = none ∧ e.result = .crashed overflowText) := by
      have full := s.full before
      rcases cells account with ⟨-, next⟩ | ⟨other, same⟩
      · rw [full] at next
        exact ⟨(next.of_last stays).1, fun _ => (next.of_last stays).2⟩
      · refine ⟨same.trans full, fun call => ?_⟩
        simp [Ended.concerns, call] at other
    refine ⟨[e], ended, fun stays => ?_, fun before x after split call stays => ?_⟩
    · rw [List.forall_mem_append, List.forall_mem_singleton] at stays
      exact (mine stays.1 stays.2).1
    · rcases cut_snoc split with ⟨rfl, rfl, -⟩ | ⟨rest, -, cut⟩
      · exact (mine stays (by rw [call]; simp)).2 call
      · exact s.crashes before x rest cut call stays

-- So does every run.
theorem Stuck.play (ordered : Ordered j) (cells : Cells j)
    (full : j.tracker.table.get? account = some last) (moves : List Move) :
    ∃ since, (j.play source moves).ended = j.ended ++ since ∧
      Stuck account since (j.play source moves) := by
  have start : ∃ since, j.ended = j.ended ++ since ∧ Stuck account since j :=
    ⟨[], (List.append_nil _).symm, fun _ => full, fun _ _ _ split => absurd split (by simp)⟩
  refine (Journal.step_induction source
    (P := fun k => Cells k ∧ ∃ since, k.ended = j.ended ++ since ∧ Stuck account since k)
    ?_ moves j ordered ⟨cells, start⟩).2.2
  rintro k l _ step ⟨cells, since, ended, stuck⟩
  rcases stuck.kept (.of_step cells step) with ⟨more, later, kept⟩
  refine ⟨cells.kept step, since ++ more, ?_, kept⟩
  rw [later, ended, List.append_assoc]

end Moves

/-- In every run, with calls made and given up at any times and any replies of the
    chain, a move touches at most the account of the call it ends. A call for a
    nonce that ends without one, or whose caller leaves in the middle of its query,
    leaves the table as it was and gives the lock to the next in line. After the
    largest nonce of an account every further call for one crashes until a reset.
    A provider crashes exactly on a count that is no nonce. -/
theorem setbacks_leave_no_trace {σ : Type} (source : NonceSource σ) (world : σ)
    (moves : List Move) :
    let j := (Journal.fresh world).play source moves
    j.tracker = (Tracker.fresh world).play source moves ∧ Ordered j ∧
      (∀ m, Contained j (j.move source m)) ∧
      (∀ m e account, (j.move source m).ended = j.ended ++ [e] → e.call = .allocate account →
        e.nonce? = none → Setback j.tracker.table account e ∧
          Released source (e.ticket, e.call) j (j.move source m)) ∧
      (∀ h, j.tracker.holder = some h →
        Released source (h.ticket, .allocate h.account) j (j.move source (.quit h.ticket))) ∧
      (∀ account more, j.tracker.table.get? account = some last →
        ∃ since, (j.play source more).ended = j.ended ++ since ∧
          Stuck account since (j.play source more)) ∧
      ∀ (τ : Type) (endpoints : Provider.Endpoints τ) (account : Address)
        (s : Provider.Session τ) (text : String),
        (s.pendingCount endpoints account).1 = .crash text ↔
          text = Provider.castText ∧
            ∃ n, (s.walk endpoints (.pendingCount account) (Rpc.quantity? 32)).1 = .value n ∧
              UInt64.size ≤ n := by
  intro j
  have kept : Ordered j ∧ Cells j :=
    Journal.step_induction source (fun _ _ _ step cells => cells.kept step) moves _
      (Ordered.fresh world) (Cells.fresh world)
  rcases kept with ⟨ordered, cells⟩
  refine ⟨Journal.tracker_play source moves _, ordered, .of_move ordered cells, ?_,
    fun h => .of_quit ordered, fun account more full => Stuck.play ordered cells full more,
    fun τ => Provider.Session.pendingCount_crash_iff⟩
  intro m e account ended call none
  rcases Step.of_move source ordered m with same | step
  · rw [same] at ended
    exact absurd (List.self_eq_append_right.mp ended) (List.cons_ne_nil e [])
  · exact Released.of_setback cells step ended call none

end Nonce

end TxRelay
