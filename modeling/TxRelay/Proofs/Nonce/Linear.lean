import TxRelay.Proofs.Nonce.Turns

/-!
# The Tracker Serves Calls in Turn

Whatever callers do, the tracker gives them what the turns of their calls give
them, at the same instants, and asks the chain the same things at the same
instants.

The calls of a journal split at the lock. Behind it are calls that are over, and
those that were passed over: the table is what their turns leave. Ahead of it
are calls that wait or whose callers left the line, none of which could have been
served before now. In between there is at most one call, which holds the lock
while the chain is asked. Every step moves calls from one part to the next and
keeps this, so the turns of all calls are those that came about, followed by
turns that are still to come.

## Main definitions

* `Nonce.Idle`, `Nonce.Asking`: Calls split at the lock.
* `Nonce.InTurn`: A journal whose calls are served in turn.
* `Nonce.Reached`: How far a run has come.
* `Nonce.Linear`: What callers and the chain see is what the turns say.

## Theorems

* `Nonce.InTurn.kept`: Every step keeps the turns.
* `Nonce.calls_served_in_turn`: Every run of the tracker is its calls' turns.
-/

namespace TxRelay

namespace Nonce

/-- Those who wait, in the order of asking. -/
def line (rs : List Request) : List (Nat × Call) :=
  (rs.filter fun r => r.left.isNone).map Request.named

section Line

variable {r : Request} {rs : List Request} {ticket : Nat} {d : Option Departure}
  {free now later : Nat}

theorem line_cons_of_left {departure : Departure} (left : r.left = some departure) :
    line (r :: rs) = line rs := by
  simp only [line, List.filter_cons, left, Option.isNone_some, Bool.false_eq_true, if_false]

theorem line_cons_of_none (stays : r.left = none) : line (r :: rs) = r.named :: line rs := by
  simp only [line, List.filter_cons, stays, Option.isNone_none, if_true, List.map_cons]

-- Who leaves is not in line any more.
theorem line_leave (departure : Departure) :
    line (rs.map (Request.leave ticket (some departure))) =
      (line rs).filter fun w => w.1 != ticket := by
  induction rs with
  | nil => rfl
  | cons r rs ih =>
    rw [List.map_cons]
    cases left : r.left with
    | some before =>
      have still : (r.leave ticket (some departure)).left = some before := by
        unfold Request.leave
        split
        · rw [left]
          rfl
        · exact left
      rw [line_cons_of_left still, line_cons_of_left left, ih]
    | none =>
      rw [line_cons_of_none left]
      by_cases same : r.ticket = ticket
      · have gone : (r.leave ticket (some departure)).left = some departure := by
          rw [Request.leave, if_pos same, left]
          rfl
        have out : (r.named.1 != ticket) = false := bne_eq_false_iff_eq.mpr same
        rw [line_cons_of_left gone, List.filter_cons_of_neg (by simp only [out]; decide), ih]
      · have stays : r.leave ticket (some departure) = r := if_neg same
        have here : (r.named.1 != ticket) = true := bne_iff_ne.mpr same
        rw [stays, line_cons_of_none left, List.filter_cons, if_pos here, ih]

-- Other callers do not notice.
theorem map_leave_of_absent (absent : ticket ∉ rs.map Request.ticket) :
    rs.map (Request.leave ticket d) = rs := by
  induction rs with
  | nil => rfl
  | cons r rs ih =>
    rw [List.map_cons, List.mem_cons, not_or] at absent
    rw [List.map_cons, ih absent.2, Request.leave, if_neg (Ne.symm absent.1)]

theorem mem_of_mem_line (mem : ticket ∈ (line rs).map Prod.fst) :
    ticket ∈ rs.map Request.ticket := by
  simp only [line, List.map_map, List.mem_map, List.mem_filter] at mem ⊢
  rcases mem with ⟨r, ⟨mem, _⟩, same⟩
  exact ⟨r, mem, same⟩

namespace Request.Unserved

-- A caller who comes now is not late.
theorem new (ticket : Nat) (call : Call) (free now : Nat) :
    Request.Unserved free now ⟨ticket, call, now, none⟩ :=
  ⟨Nat.le_refl now, fun _ => Nat.le_max_left now free, fun _ left => absurd left (by simp)⟩

-- Time may pass while the lock is taken, or after the line was left.
theorem mono {free' now' : Nat} (u : r.Unserved free now) (le : free ≤ free') (later : now ≤ now')
    (waits : r.left = none → now' ≤ max r.asked free') : r.Unserved free' now' := by
  refine ⟨Nat.le_trans u.asked later, waits, fun d left => ?_⟩
  rcases u.inLine d left with ⟨i, same, asked, before⟩
  exact ⟨i, same, asked, by omega⟩

-- Who waits may leave the line.
theorem leave (u : r.Unserved free now) (ticket : Nat) :
    (r.leave ticket (some (.inLine now))).Unserved free now := by
  unfold Request.leave
  split
  · cases left : r.left with
    | none =>
      refine ⟨u.asked, fun stays => absurd stays (Option.some_ne_none _), fun d same => ?_⟩
      exact ⟨now, (Option.some.inj same).symm, u.asked, u.waits left⟩
    | some before =>
      refine ⟨u.asked, fun stays => absurd stays (Option.some_ne_none _), fun d same => ?_⟩
      exact u.inLine d (left.trans same)
  · exact u

end Request.Unserved

end Line

section Invariant

variable {σ : Type}

/-- The calls that are over, and what they left. -/
structure Behind (source : NonceSource σ) (world : σ) (past : List Request) (since : Nat)
    (d : Desk σ) (j : Journal σ) : Prop where
  /-- Their callers left where the turns let them. -/
  admitted : Admitted source past (.fresh world)
  /-- The next call finds the desk as they left it. -/
  desk : (Desk.fresh world).after source past = d
  /-- The last of them gave the lock back. -/
  free : d.free = some since
  /-- The tracker has their table. -/
  table : j.tracker.table = d.table
  /-- Their callers were given what the turns say. -/
  results : j.tracker.results = (answers (turns source past (.fresh world))).reverse

/-- Nobody holds the lock. -/
structure Idle (source : NonceSource σ) (world : σ) (past ahead : List Request) (since : Nat)
    (d : Desk σ) (j : Journal σ) : Prop extends Behind source world past since d j where
  /-- The calls that were made. -/
  requests : j.requests = past ++ ahead
  /-- Nobody holds the lock. -/
  holder : j.tracker.holder = none
  /-- The chain is as the turns leave it. -/
  chain : j.tracker.outside.world = d.world
  /-- It was asked what the turns say. -/
  acts : j.tracker.outside.acts = (questions (turns source past (.fresh world))).reverse
  /-- The last turn is over. -/
  elapsed : since ≤ j.tracker.now
  /-- The others wait, or left. -/
  waiting : j.tracker.waiting = line ahead
  /-- None of them could have been served before now. -/
  unserved : ∀ r ∈ ahead, r.Unserved since j.tracker.now

/-- A call holds the lock while the chain is asked. -/
structure Asking (source : NonceSource σ) (world : σ) (past : List Request) (r : Request)
    (ahead : List Request) (account : Address) (since : Nat) (d : Desk σ) (j : Journal σ) : Prop
    extends Behind source world past since d j where
  /-- The calls that were made. -/
  requests : j.requests = past ++ r :: ahead
  /-- The caller did not leave. -/
  left : r.left = none
  /-- It asks for a nonce. -/
  call : r.call = .allocate account
  /-- The table has none. -/
  unknown : d.table.get? account = none
  /-- The call holds the lock since its turn came. -/
  holder : j.tracker.holder =
    some ⟨r.ticket, account, (source account d.world).1.calledAt (max r.asked since)⟩
  /-- The chain is as this query leaves it. -/
  chain : j.tracker.outside.world = (source account d.world).2
  /-- It was asked what the turns say, and then this. -/
  acts : j.tracker.outside.acts =
    (max r.asked since, .query account) :: (questions (turns source past (.fresh world))).reverse
  /-- The turn has come. -/
  begun : max r.asked since ≤ j.tracker.now
  /-- The reply is not overdue. -/
  due : ∀ delay outcome, (source account d.world).1 = .after delay outcome →
    j.tracker.now ≤ max r.asked since + delay
  /-- The others wait, or left. -/
  waiting : j.tracker.waiting = line ahead
  /-- None of them could be served. -/
  unserved : ∀ q ∈ ahead, q.Unserved j.tracker.now j.tracker.now

/-- Calls are served in turn. -/
inductive InTurn (source : NonceSource σ) (world : σ) (j : Journal σ) : Prop where
  | idle (past ahead : List Request) (since : Nat) (d : Desk σ)
      (h : Idle source world past ahead since d j)
  | asking (past : List Request) (r : Request) (ahead : List Request) (account : Address)
      (since : Nat) (d : Desk σ) (h : Asking source world past r ahead account since d j)

variable {source : NonceSource σ} {world : σ} {past ahead : List Request} {r : Request}
  {account : Address} {since : Nat} {d e : Desk σ} {j k : Journal σ} {t : Turn}

-- The turn of one more call.
theorem turns_snoc (desk : (Desk.fresh world).after source past = d)
    (served : d.serve source r = (some t, e)) :
    turns source (past ++ [r]) (.fresh world) = turns source past (.fresh world) ++ [t] ∧
      (Desk.fresh world).after source (past ++ [r]) = e := by
  rw [turns_append, after_append, desk, turns, turns, Desk.after, List.foldl_cons, served]
  exact ⟨rfl, rfl⟩

-- What one more turn adds to a record that is kept in reverse.
theorem reverse_filterMap_snoc {α : Type} (f : Turn → Option α) (ts : List Turn) (t : Turn) :
    ((ts ++ [t]).filterMap f).reverse = (f t).toList ++ (ts.filterMap f).reverse := by
  rw [List.filterMap_append, List.reverse_append]
  cases found : f t with
  | none => simp only [List.filterMap_cons, found, List.filterMap_nil, Option.toList_none,
      List.reverse_nil]
  | some a => simp only [List.filterMap_cons, found, List.filterMap_nil, Option.toList_some,
      List.reverse_singleton]

/-- One more call is over. -/
theorem Behind.extend (b : Behind source world past since d j) (admits : d.admits source r)
    (served : d.serve source r = (some t, e)) {g : Nat} (freed : e.free = some g)
    (table : k.tracker.table = e.table)
    (results : k.tracker.results = t.answer?.toList ++ j.tracker.results) :
    Behind source world (past ++ [r]) g e k := by
  rcases turns_snoc b.desk served with ⟨turns, desk⟩
  refine ⟨admitted_append.mpr ⟨b.admitted, ?_, trivial⟩, desk, freed, table, ?_⟩
  · rw [b.desk]
    exact admits
  · rw [results, b.results, turns]
    exact (reverse_filterMap_snoc Turn.answer? _ t).symm

-- The questions of one more call.
theorem questions_snoc (desk : (Desk.fresh world).after source past = d)
    (served : d.serve source r = (some t, e)) :
    (questions (turns source (past ++ [r]) (.fresh world))).reverse =
      t.question?.toList ++ (questions (turns source past (.fresh world))).reverse := by
  rw [(turns_snoc desk served).1]
  exact reverse_filterMap_snoc Turn.question? _ t

/-- The lock is given back, and nobody holds it. -/
theorem Behind.next (b : Behind source world past since d j) (admits : d.admits source r)
    (served : d.serve source r = (some t, e)) (freed : e.free = some k.tracker.now)
    (table : k.tracker.table = e.table)
    (results : k.tracker.results = t.answer?.toList ++ j.tracker.results)
    (requests : k.requests = past ++ r :: ahead) (holder : k.tracker.holder = none)
    (chain : k.tracker.outside.world = e.world)
    (acts : k.tracker.outside.acts =
      t.question?.toList ++ (questions (turns source past (.fresh world))).reverse)
    (waiting : k.tracker.waiting = line ahead)
    (unserved : ∀ q ∈ ahead, q.Unserved k.tracker.now k.tracker.now) : InTurn source world k := by
  have after := b.extend admits served freed table results
  refine .idle (past ++ [r]) ahead _ e ⟨after, ?_, holder, chain, ?_, ?_, waiting,
    unserved⟩
  · rw [requests, List.append_assoc, List.singleton_append]
  · rw [acts, questions_snoc b.desk served]
  · exact Nat.le_refl k.tracker.now

namespace Idle

-- Whoever left the line is passed over.
theorem drop (o : Idle source world past (r :: ahead) since d j) {departure : Departure}
    (left : r.left = some departure) : Idle source world (past ++ [r]) ahead since d j := by
  have unserved := o.unserved r List.mem_cons_self
  rcases unserved.inLine departure left with ⟨i, rfl, _, _⟩
  have passed : turns source [r] d = [] ∧ d.after source [r] = d :=
    passed_over fun q mem => ⟨i, (List.mem_singleton.mp mem).symm ▸ left⟩
  have same : turns source (past ++ [r]) (.fresh world) = turns source past (.fresh world) := by
    rw [turns_append, o.desk, passed.1, List.append_nil]
  have admitted : Admitted source [r] d :=
    admitted_of_unserved since j.tracker.now
      (fun q mem => (List.mem_singleton.mp mem).symm ▸ unserved)
      (fun f held => Nat.le_of_eq (Option.some.inj (o.free.symm.trans held)))
  exact
    { admitted := admitted_append.mpr ⟨o.admitted, o.desk.symm ▸ admitted⟩
      desk := by rw [after_append, o.desk, passed.2]
      free := o.free
      table := o.table
      results := by rw [same, o.results]
      requests := by rw [o.requests, List.append_assoc, List.singleton_append]
      holder := o.holder
      chain := o.chain
      acts := by rw [same, o.acts]
      elapsed := o.elapsed
      waiting := by rw [o.waiting, line_cons_of_left left]
      unserved := fun q mem => o.unserved q (List.mem_cons_of_mem r mem) }

/-- The turn of the first in line comes now. -/
theorem front (o : Idle source world past ahead since d j) {ticket : Nat} {call : Call}
    {rest : List (Nat × Call)} (waiting : j.tracker.waiting = (ticket, call) :: rest) :
    ∃ past r ahead, Idle source world past (r :: ahead) since d j ∧ r.left = none ∧
      r.ticket = ticket ∧ r.call = call ∧ line ahead = rest ∧
      max r.asked since = j.tracker.now := by
  induction ahead generalizing past with
  | nil => exact absurd (waiting.symm.trans o.waiting) (List.cons_ne_nil _ _)
  | cons r rs ih =>
    cases left : r.left with
    | some departure => exact ih (o.drop left)
    | none =>
      have first := waiting.symm.trans (o.waiting.trans (line_cons_of_none left))
      rw [List.cons.injEq, Request.named, Prod.mk.injEq] at first
      have unserved := o.unserved r List.mem_cons_self
      have := unserved.waits left
      have := unserved.asked
      have := o.elapsed
      exact ⟨past, r, rs, o, left, first.1.1.symm, first.1.2.symm, first.2.symm, by omega⟩

end Idle

section Steps

variable {call : Call} {ticket : Nat} {rest : List (Nat × Call)}

-- The requests of a list and those after it have different tickets.
theorem absent_of_mem (o : Ordered j) {first second : List Request}
    (requests : j.requests = first ++ second) (mem : ticket ∈ second.map Request.ticket) :
    ticket ∉ first.map Request.ticket := by
  have nodup : ((first ++ second).map Request.ticket).Nodup := by
    rw [← requests, o.tickets]
    exact List.nodup_range
  rw [List.map_append, List.nodup_append] at nodup
  exact fun here => nodup.2.2 ticket here ticket mem rfl

-- A new call waits at the end of the line.
theorem line_append_new (now : Nat) :
    line (ahead ++ [⟨ticket, call, now, none⟩]) = line ahead ++ [(ticket, call)] := by
  rw [line, line, List.filter_append, List.map_append]
  rfl

-- Somebody who waits would be served first.
theorem Idle.gone_of_rest (o : Idle source world past ahead since d j) {limit : Nat}
    (rest : j.tracker.step? source limit = none) (mem : r ∈ ahead) : r.left ≠ none := by
  intro stays
  cases waiting : j.tracker.waiting with
  | nil =>
    rw [o.waiting, line, List.map_eq_nil_iff, List.filter_eq_nil_iff] at waiting
    exact waiting r mem (by rw [stays]; rfl)
  | cons first others =>
    rw [Tracker.step?_waiting o.holder waiting] at rest
    exact absurd rest (Option.some_ne_none _)

-- The table needs the chain's reply.
theorem Asking.query (o : Asking source world past r ahead account since d j) :
    d.table.query? r.call = some account :=
  Table.query?_eq_some.mpr ⟨o.call, o.unknown⟩

-- A reply that is due would arrive first.
theorem Asking.early_of_rest (o : Asking source world past r ahead account since d j)
    {limit delay : Nat} {outcome : Outcome UInt64} (rest : j.tracker.step? source limit = none)
    (reply : (source account d.world).1 = .after delay outcome) :
    limit < max r.asked since + delay := by
  refine Nat.lt_of_not_le fun due => ?_
  rw [Tracker.step?_arriving o.holder (by rw [reply]; rfl) due] at rest
  exact absurd rest (Option.some_ne_none _)

/-- Every step from where nobody holds the lock. -/
theorem Idle.kept (step : Step source j k) (ordered : Ordered j)
    (o : Idle source world past ahead since d j) : InTurn source world k := by
  cases step with
  | ask call =>
    refine .idle past (ahead ++ [⟨j.tracker.asked, call, j.tracker.now, none⟩]) since d
      { o with requests := ?_, waiting := ?_, unserved := ?_ }
    · rw [o.requests, List.append_assoc]
    · rw [line_append_new, ← o.waiting]
      rfl
    · refine List.forall_mem_append.mpr ⟨o.unserved, List.forall_mem_singleton.mpr ?_⟩
      exact .new j.tracker.asked call since j.tracker.now
  | @leaveLine ticket waits other =>
    rw [o.waiting] at waits
    have absent := absent_of_mem ordered o.requests (mem_of_mem_line waits)
    refine .idle past (ahead.map (Request.leave ticket (some (.inLine j.tracker.now)))) since d
      { o with requests := ?_, waiting := ?_, unserved := ?_ }
    · rw [o.requests, List.map_append, map_leave_of_absent absent]
    · rw [line_leave, o.waiting]
    · exact List.forall_mem_map.mpr fun r mem => (o.unserved r mem).leave _
  | leaveQuery holder => exact absurd (o.holder.symm.trans holder) (Option.some_ne_none _).symm
  | serve free waiting known =>
    rcases o.front waiting with ⟨past, r, ahead, o, left, rfl, rfl, rfl, now⟩
    have served := Desk.serve_of_free source o.free (Desk.stays_of_none left)
    rw [o.table] at known ⊢
    rw [now, Desk.take_of_known known] at served
    refine o.next (Desk.admits_of_none left) served rfl rfl rfl o.requests o.holder o.chain o.acts
      rfl ?_
    intro q mem
    have u := o.unserved q (List.mem_cons_of_mem r mem)
    exact u.mono o.elapsed (Nat.le_refl _) fun _ => Nat.le_max_right _ _
  | query free waiting unknown =>
    rcases o.front waiting with ⟨past, r, ahead, o, left, rfl, call, rfl, now⟩
    refine .asking past r ahead _ since d
      { admitted := o.admitted
        desk := o.desk
        free := o.free
        table := o.table
        results := o.results
        requests := o.requests
        left := left
        call := call
        unknown := by rw [← o.table]; exact unknown
        holder := by rw [now, ← o.chain]
        chain := by rw [← o.chain]; rfl
        acts := by rw [now, ← o.acts]; rfl
        begun := Nat.le_of_eq now
        due := fun delay outcome _ => now ▸ Nat.le_add_right _ delay
        waiting := rfl
        unserved := fun q mem => ?_ }
    have u := o.unserved q (List.mem_cons_of_mem r mem)
    exact u.mono o.elapsed (Nat.le_refl _) fun _ => Nat.le_max_right _ _
  | arrive holder answer =>
    exact absurd (o.holder.symm.trans holder) (Option.some_ne_none _).symm
  | wait limit later rest =>
    refine .idle past ahead since d
      { o with elapsed := Nat.le_trans o.elapsed later, unserved := fun q mem => ?_ }
    exact (o.unserved q mem).mono (Nat.le_refl _) later
      fun stays => absurd stays (o.gone_of_rest rest mem)

-- Only the caller who holds the lock leaves.
theorem Asking.map_leave (o : Asking source world past r ahead account since d j)
    (ordered : Ordered j) (departure : Departure) :
    (r.leave r.ticket (some departure)).left = some departure ∧
      j.requests.map (Request.leave r.ticket (some departure)) =
        past ++ r.leave r.ticket (some departure) :: ahead := by
  have others : (past ++ [r]) ++ ahead = j.requests := by
    rw [o.requests, List.append_assoc, List.singleton_append]
  have before := absent_of_mem ordered o.requests List.mem_cons_self
  have after : r.ticket ∉ ahead.map Request.ticket := fun mem =>
    absent_of_mem ordered others.symm mem (by simp)
  refine ⟨?_, ?_⟩
  · rw [Request.leave, if_pos rfl, o.left]
    rfl
  · rw [o.requests, List.map_append, map_leave_of_absent before, List.map_cons,
      map_leave_of_absent after]

/-- Every step from where a call holds the lock. -/
theorem Asking.kept (step : Step source j k) (ordered : Ordered j)
    (o : Asking source world past r ahead account since d j) : InTurn source world k := by
  cases step with
  | ask call =>
    refine .asking past r (ahead ++ [⟨j.tracker.asked, call, j.tracker.now, none⟩]) account since d
      { o with requests := ?_, waiting := ?_, unserved := ?_ }
    · rw [o.requests, List.append_assoc, List.cons_append]
    · rw [line_append_new, ← o.waiting]
      rfl
    · refine List.forall_mem_append.mpr ⟨o.unserved, List.forall_mem_singleton.mpr ?_⟩
      exact .new j.tracker.asked call j.tracker.now j.tracker.now
  | @leaveLine ticket waits other =>
    rw [o.waiting] at waits
    have requests : j.requests = (past ++ [r]) ++ ahead := by
      rw [o.requests, List.append_assoc, List.singleton_append]
    have absent := absent_of_mem ordered requests (mem_of_mem_line waits)
    refine .asking past r (ahead.map (Request.leave ticket (some (.inLine j.tracker.now))))
      account since d { o with requests := ?_, waiting := ?_, unserved := ?_ }
    · rw [requests, List.map_append, map_leave_of_absent absent, List.append_assoc,
        List.singleton_append]
    · rw [line_leave, o.waiting]
    · exact List.forall_mem_map.mpr fun r mem => (o.unserved r mem).leave ticket
  | leaveQuery holder =>
    have held := Option.some.inj (holder.symm.trans o.holder)
    subst held
    rcases o.map_leave ordered (.inQuery j.tracker.now) with ⟨gone, requests⟩
    have asks := o.query
    rw [← Request.call_leave r.ticket (some (.inQuery j.tracker.now))] at asks
    have served := Desk.serve_of_free source o.free fun i inLine =>
      absurd (gone.symm.trans inLine) (by simp)
    rw [Desk.take_of_left asks gone, Request.asked_leave] at served
    refine o.next ?_ served rfl o.table rfl requests rfl o.chain o.acts o.waiting o.unserved
    unfold Desk.admits
    rw [gone, Request.asked_leave]
    exact ⟨since, account, o.free, asks, o.begun, o.due⟩
  | serve free waiting known =>
    exact absurd (free.symm.trans o.holder) (Option.some_ne_none _).symm
  | query free waiting unknown =>
    exact absurd (free.symm.trans o.holder) (Option.some_ne_none _).symm
  | @arrive h i outcome holder answer =>
    have held := Option.some.inj (holder.symm.trans o.holder)
    subst held
    cases reply : (source account d.world).1 with
    | never => simp [reply, Reply.calledAt] at answer
    | after delay result =>
      simp only [reply, Reply.calledAt, Answer.arriving.injEq] at answer
      rcases answer with ⟨rfl, rfl⟩
      have served := Desk.serve_of_free source o.free (Desk.stays_of_none o.left)
      rw [Desk.take_of_reply o.query o.left reply, o.call, Table.serve_of_unknown o.unknown] at served
      have now : max j.tracker.now (max r.asked since + delay) = max r.asked since + delay :=
        Nat.max_eq_right (o.due delay result reply)
      refine o.next (Desk.admits_of_none o.left) served ?_ ?_ ?_ o.requests rfl o.chain o.acts
        o.waiting ?_
      · exact congrArg some now.symm
      · simp only [Tracker.release, Tracker.finish, o.table]
      · simp only [Tracker.release, Tracker.finish, now, o.table]
        rfl
      · intro q mem
        exact (o.unserved q mem).mono (Nat.le_max_left _ _) (Nat.le_max_left _ _)
          fun _ => Nat.le_max_right _ _
  | wait limit later rest =>
    refine .asking past r ahead account since d
      { o with begun := Nat.le_trans o.begun later, due := ?_, unserved := ?_ }
    · exact fun delay outcome reply => Nat.le_of_lt (o.early_of_rest rest reply)
    · intro q mem
      exact (o.unserved q mem).mono later later fun _ => Nat.le_max_right _ _

/-- Every step keeps the turns. -/
theorem InTurn.kept (step : Step source j k) (ordered : Ordered j) (o : InTurn source world j) :
    InTurn source world k := by
  cases o with
  | idle _ _ _ _ h => exact h.kept step ordered
  | asking _ _ _ _ _ _ h => exact h.kept step ordered

-- Nothing was asked yet.
theorem InTurn.fresh (world : σ) : InTurn source world (Journal.fresh world) :=
  .idle [] [] 0 (.fresh world)
    { admitted := trivial
      desk := rfl
      free := rfl
      table := rfl
      results := rfl
      requests := rfl
      holder := rfl
      chain := rfl
      acts := rfl
      elapsed := Nat.le_refl 0
      waiting := rfl
      unserved := fun _ mem => absurd mem List.not_mem_nil }

end Steps

/-- The calls were asked one after another. -/
structure Dated (j : Journal σ) : Prop where
  /-- They are listed in that order. -/
  sorted : (j.requests.map Request.asked).Pairwise (· ≤ ·)
  /-- None of them is still to come. -/
  past : ∀ i ∈ j.requests.map Request.asked, i ≤ j.tracker.now

namespace Dated

-- Nothing was asked yet.
theorem fresh (world : σ) : Dated (Journal.fresh world) :=
  ⟨List.Pairwise.nil, fun _ mem => absurd mem List.not_mem_nil⟩

/-- Every step keeps the dates. -/
theorem kept (step : Step source j k) (o : Dated j) : Dated k := by
  have leave (ticket : Nat) (departure : Option Departure) :
      (j.requests.map (Request.leave ticket departure)).map Request.asked =
        j.requests.map Request.asked := by
    rw [List.map_map]
    exact List.map_congr_left fun _ _ => Request.asked_leave ticket departure _
  cases step with
  | ask call =>
    refine ⟨?_, ?_⟩ <;> rw [List.map_append, List.map_singleton]
    · refine List.pairwise_append.mpr ⟨o.sorted, List.pairwise_singleton _ _, ?_⟩
      exact fun i mem _ here => (List.mem_singleton.mp here).symm ▸ o.past i mem
    · exact List.forall_mem_append.mpr ⟨o.past, List.forall_mem_singleton.mpr (Nat.le_refl _)⟩
  | leaveLine waits other => exact ⟨(leave _ _).symm ▸ o.sorted, (leave _ _).symm ▸ o.past⟩
  | leaveQuery holder => exact ⟨(leave _ _).symm ▸ o.sorted, (leave _ _).symm ▸ o.past⟩
  | serve free waiting known => exact ⟨o.sorted, o.past⟩
  | query free waiting unknown => exact ⟨o.sorted, o.past⟩
  | arrive holder answer =>
    exact ⟨o.sorted, fun i mem => Nat.le_trans (o.past i mem) (Nat.le_max_left _ _)⟩
  | wait limit later rest => exact ⟨o.sorted, fun i mem => Nat.le_trans (o.past i mem) later⟩

end Dated

/-- Calls split at the lock: those that are over or were passed over, the one
    that holds the lock, and those ahead of it. -/
structure Linear (source : NonceSource σ) (world : σ) (past present ahead : List Request)
    (j : Journal σ) : Prop where
  /-- These are all calls, in the order of asking. -/
  requests : j.requests = past ++ present ++ ahead
  /-- Callers left where the turns let them. -/
  admitted : Admitted source j.requests (.fresh world)
  /-- The table is what the turns that are over leave. -/
  table : j.tracker.table = ((Desk.fresh world).after source past).table
  /-- Callers were given what these turns say, at the same instants. -/
  results : j.tracker.results = (answers (turns source past (.fresh world))).reverse
  /-- The chain was asked what the turns that began say, at the same instants. -/
  acts : j.tracker.outside.acts =
    (questions (turns source (past ++ present) (.fresh world))).reverse
  /-- The call that holds the lock, if any, is the one in between. -/
  holder : present.map Request.ticket = (j.tracker.holder.map Holder.ticket).toList
  /-- The turns that are over, are over by now. -/
  ended : ∀ t ∈ turns source past (.fresh world), ∃ o, t.ended = some o ∧ o ≤ j.tracker.now
  /-- The turn in between began by now and is not over before now. Once nothing
      more happens now it is over later. -/
  current : ∀ t ∈ turns source present ((Desk.fresh world).after source past),
    t.began ≤ j.tracker.now ∧ ∀ o, t.ended = some o → j.tracker.now ≤ o ∧
      (j.tracker.step? source j.tracker.now = none → j.tracker.now < o)
  /-- The turns ahead do not begin before now. Once nothing more happens now
      they begin later. -/
  later : ∀ t ∈ turns source ahead ((Desk.fresh world).after source (past ++ present)),
    j.tracker.now ≤ t.began ∧
      (j.tracker.step? source j.tracker.now = none → j.tracker.now < t.began)

-- Turns that are over.
theorem Behind.ended (b : Behind source world past since d j) (elapsed : since ≤ j.tracker.now) :
    ∀ t ∈ turns source past (.fresh world), ∃ o, t.ended = some o ∧ o ≤ j.tracker.now := by
  intro t mem
  have free : ((Desk.fresh world).after source past).free = some since := by
    rw [b.desk]
    exact b.free
  rcases ended_of_free b.admitted free mem with ⟨o, ended, le⟩
  exact ⟨o, ended, Nat.le_trans le elapsed⟩

theorem Idle.linear (o : Idle source world past ahead since d j) :
    Linear source world past [] ahead j := by
  have admitted : Admitted source ahead d := by
    refine admitted_of_unserved since j.tracker.now o.unserved fun f held => ?_
    exact Nat.le_of_eq (Option.some.inj (o.free.symm.trans held))
  refine
    { requests := by rw [List.append_nil, o.requests]
      admitted := ?_
      table := by rw [o.desk, o.table]
      results := o.results
      acts := by rw [List.append_nil, o.acts]
      holder := by rw [o.holder]; rfl
      ended := o.toBehind.ended o.elapsed
      current := fun t mem => absurd mem List.not_mem_nil
      later := fun t mem => ?_ }
  · rw [o.requests, admitted_append, o.desk]
    exact ⟨o.admitted, admitted⟩
  · rw [List.append_nil, o.desk] at mem
    rcases prompt_of_mem admitted mem with ⟨f, held, prompt⟩
    have same : since = f := Option.some.inj (o.free.symm.trans held)
    subst same
    rcases prompt.request with ⟨r, mem, _, _, stays, begun⟩
    -- Its caller waits, so its turn comes now.
    have unserved := o.unserved r mem
    have waits : r.left = none := by
      cases left : r.left with
      | none => rfl
      | some departure =>
        rcases unserved.inLine departure left with ⟨i, rfl, _⟩
        exact absurd left (stays i)
    exact ⟨Nat.le_trans (unserved.waits waits) begun,
      fun rest => absurd waits (o.gone_of_rest rest mem)⟩

-- The turn of the call that holds the lock is not over before now.
theorem Asking.pending (o : Asking source world past r ahead account since d j) {i : Nat}
    (free : (d.take source r (max r.asked since)).2.free = some i) :
    j.tracker.now ≤ i ∧ (j.tracker.step? source j.tracker.now = none → j.tracker.now < i) := by
  cases reply : (source account d.world).1 with
  | never =>
    rw [Desk.take_of_never o.query o.left reply] at free
    exact absurd free (Option.some_ne_none i).symm
  | after delay outcome =>
    rw [Desk.take_of_reply o.query o.left reply] at free
    rw [← Option.some.inj free]
    exact ⟨o.due delay outcome reply, fun rest => o.early_of_rest rest reply⟩

theorem Asking.linear (o : Asking source world past r ahead account since d j) :
    Linear source world past [r] ahead j := by
  have stays := Desk.stays_of_none o.left
  have admits : d.admits source r := Desk.admits_of_none o.left
  have served := Desk.serve_of_free source o.free stays
  have takes := Desk.takes o.free stays admits
  have pending := fun i => o.pending (i := i)
  -- The turn of the call, and the desk it will leave.
  generalize (d.take source r (max r.asked since)).1 = t at served takes
  generalize (d.take source r (max r.asked since)).2 = e at served takes pending
  have admitted : Admitted source ahead e :=
    admitted_of_unserved j.tracker.now j.tracker.now o.unserved fun f held => (pending f held).1
  have after := (turns_snoc o.desk served).2
  refine
    { requests := by rw [o.requests, List.append_assoc, List.singleton_append]
      admitted := ?_
      table := by rw [o.desk, o.table]
      results := o.results
      acts := ?_
      holder := by rw [o.holder]; rfl
      ended := o.toBehind.ended (Nat.le_trans (Nat.le_max_right _ _) o.begun)
      current := fun u mem => ?_
      later := fun u mem => ?_ }
  · rw [o.requests, admitted_append, o.desk]
    refine ⟨o.admitted, admits, ?_⟩
    rw [served]
    exact admitted
  · have question : t.question? = some (max r.asked since, .query account) := by
      rw [Turn.question?, takes.query, takes.began, o.query]
      rfl
    rw [o.acts, questions_snoc o.desk served, question]
    rfl
  · have same : u = t := by
      rw [o.desk, turns, served] at mem
      exact List.mem_singleton.mp mem
    subst same
    exact ⟨takes.began ▸ o.begun, fun i ended => pending i (takes.ended.symm.trans ended)⟩
  · rw [after] at mem
    rcases prompt_of_mem admitted mem with ⟨f, held, prompt⟩
    rcases prompt.request with ⟨q, _, _, _, _, begun⟩
    have := pending f held
    exact ⟨by omega, fun rest => by have := this.2 rest; omega⟩

end Invariant

/-- Every run of the tracker is its calls' turns. Calls are made and given up at
    any times, and the chain replies as it likes. Callers and the chain see what
    the turns say, at the same instants; turns come one after another in the order
    of asking; and the chain is asked for nobody who is in the table. -/
theorem calls_served_in_turn {σ : Type} (source : NonceSource σ) (world : σ)
    (moves : List Move) :
    let j := (Journal.fresh world).play source moves
    let all := turns source j.requests (.fresh world)
    j.tracker = (Tracker.fresh world).play source moves ∧ Ordered j ∧ Dated j ∧
      (∃ past present ahead, Linear source world past present ahead j) ∧
      (all.Pairwise fun a b => a.ticket < b.ticket ∧ ∃ o, a.ended = some o ∧ o ≤ b.began) ∧
      (∀ t ∈ all, Prompt j.requests 0 t) ∧
      ∀ h, j.tracker.holder = some h → j.tracker.table.get? h.account = none := by
  intro j all
  have kept : Ordered j ∧ Dated j ∧ InTurn source world j :=
    Journal.step_induction source (P := fun j => Dated j ∧ InTurn source world j)
      (fun _ _ ordered step both => ⟨both.1.kept step, both.2.kept step ordered⟩) moves _
      (Ordered.fresh world) ⟨Dated.fresh world, InTurn.fresh world⟩
  rcases kept with ⟨ordered, dated, inTurn⟩
  have split : ∃ past present ahead, Linear source world past present ahead j := by
    rcases inTurn with ⟨past, ahead, _, _, h⟩ | ⟨past, r, ahead, _, _, _, h⟩
    · exact ⟨past, [], ahead, h.linear⟩
    · exact ⟨past, [r], ahead, h.linear⟩
  have admitted : Admitted source j.requests (.fresh world) := by
    rcases split with ⟨_, _, _, linear⟩
    exact linear.admitted
  refine ⟨Journal.tracker_play source moves _, ordered, dated, split, ?_, ?_, ?_⟩
  · refine serial_turns admitted ?_
    rw [ordered.tickets]
    exact List.pairwise_lt_range
  · intro t mem
    rcases prompt_of_mem admitted mem with ⟨f, free, prompt⟩
    rw [show f = 0 from (Option.some.inj free).symm] at prompt
    exact prompt
  · intro h held
    rcases inTurn with ⟨_, _, _, _, o⟩ | ⟨_, _, _, _, _, _, o⟩
    · exact absurd (o.holder.symm.trans held) (Option.some_ne_none h).symm
    · rw [← Option.some.inj (o.holder.symm.trans held), o.table]
      exact o.unknown

end Nonce

end TxRelay
