import TxRelay.Proofs.Queue.Effect
import TxRelay.Proofs.Queue.Places

/-!
# The Line

Callers who find no place wait in line, in the order in which they asked, and places
are handed out from the front. Nobody is lost: every call that was asked is accepted
or turned away, or waits in line, unless its caller left the line, and it is only one of
these.

A caller who was handed a place has yet to store its entry, and a place that is free is
free for anybody. So somebody who asks at that instant can be accepted first, and so can
another who was handed a place later. Nobody else overtakes: whoever waits without a
place waits because none is free. Time does not pass while a place is on its way, so
nobody is accepted at a later instant than somebody who asked after it.

## Main definitions

* `Queue.State.quitters`: The callers who leave the line in a run.
* `Queue.State.Settled`: Everybody who asked is accounted for.
* `Queue.InOrder`: The line is in order, and acceptances are in time.
* `Queue.State.Overtakes`: A move lets somebody store before somebody who was handed a
  place earlier.
* `Queue.Listed`: Everybody is accepted in the order of asking.

## Theorems

* `Queue.Stands.work`: A step of the worker accepts nobody.
* `Queue.State.settled_play`: Everybody who asked is accounted for in every run.
* `Queue.InOrder.play`: The line is in order in every run.
* `Queue.Listed.play`: In a run without such moves nobody overtakes.
-/

namespace TxRelay

namespace Queue

variable {σ : Type} {q : Setup σ} {world : σ} {s t : State σ}

/-- Nobody is accepted, and whoever is in line stays there, unless the whole line is
    turned away. -/
structure Stands (s t : State σ) : Prop where
  /-- Nobody is accepted. -/
  acceptances : t.acceptances = s.acceptances
  /-- Nobody asks. -/
  asked : t.asked = s.asked
  /-- The line stays, and whoever was handed a place keeps it; or everybody in line is
      turned away. -/
  line : (t.waiters = s.waiters ∧ s.granted ≤ t.granted ∧ t.rejected = s.rejected) ∨
    (t.waiters = [] ∧ t.rejected = s.inLine.reverse ++ s.rejected)
  /-- Time passes only while no place is on its way. -/
  clock : t.now = s.now ∨ s.now ≤ t.now ∧ s.granted = 0

namespace Stands

theorem accepted (stands : Stands s t) : t.accepted = s.accepted := by
  rw [← t.map_acceptances, stands.acceptances, s.map_acceptances]

-- A worker that goes away turns everybody away.
theorem cleared (how : Ending) (r : Response) (hand : List Nat) (m : Metrics) (s : State σ) :
    Stands s ((s.cleared how (s.refusals s.inLine ++ s.replies r hand)).measure fun _ => m) := by
  refine ⟨State.acceptances_of_events rfl ?_, rfl, Or.inr ⟨rfl, ?_⟩, Or.inl rfl⟩
  · rw [List.filterMap_append, State.accepted?_refusals, State.accepted?_replies]
    rfl
  · rw [State.rejected_of_events (s := s) rfl, List.filterMap_append, State.rejected?_refusals,
      State.rejected?_replies, List.append_nil]

theorem leave (how : Ending) (s : State σ) : Stands s (s.leave how) := by
  rcases s.leave_shape how with ⟨m, shape⟩
  rw [shape]
  exact cleared how _ _ m s

-- So does a shutdown.
theorem close (s : State σ) :
    Stands s { s with lifecycle := .stopping, shutdown := true }.releaseWaiters := by
  rcases s.close_shape with ⟨m, shape⟩
  rw [shape]
  refine ⟨State.acceptances_of_events (e := s.refusals s.inLine) rfl
    (State.accepted?_refusals s.inLine s), rfl, Or.inr ⟨rfl, ?_⟩, Or.inl rfl⟩
  rw [State.rejected_of_events (s := s) (e := s.refusals s.inLine) rfl, State.rejected?_refusals]

/-- A step of the worker accepts nobody. -/
theorem work {limit : Nat} (o : Orderly s) (work : s.work? q limit = some t)
    (calm : limit ≤ s.now ∨ s.granted = 0) : Stands s t := by
  have now := State.now_of_work? work
  have clock : t.now = s.now ∨ s.now ≤ t.now ∧ s.granted = 0 := by omega
  rcases State.work_cases work with ⟨stage, -, rfl⟩ | ⟨e, rest, -, -, -, rfl⟩ |
    ⟨-, -, -, -, -, rfl⟩ | ⟨n, i, d, o, fate, flight, rfl⟩
  · rcases s.drain_shape (by rw [stage]; rfl) with ⟨m, shape⟩
    rw [shape]
    exact cleared .finished _ _ m s
  · -- The place that becomes free is handed to somebody in line.
    have placed := o.placed
    rw [(s.receive_frame q e rest).1] at clock ⊢
    refine ⟨rfl, rfl, Or.inl ⟨rfl, ?_, rfl⟩, clock⟩
    show s.granted ≤ min (s.granted + 1) s.waiters.length
    omega
  · exact leave _ s
  · cases fate with
    | on stage => exact ⟨rfl, rfl, Or.inl ⟨rfl, Nat.le_refl _, rfl⟩, clock⟩
    | answered r =>
      refine ⟨State.acceptances_answer n r _, rfl, Or.inl ⟨rfl, Nat.le_refl _, ?_⟩, clock⟩
      rw [State.rejected_of_events (s := s) (e := [(max s.now i, s.reply n r)]) rfl]
      simp only [List.filterMap_cons, State.rejected?_reply, List.filterMap_nil, List.nil_append]
    | crash text =>
      have gone := leave (.crashed text) (s.after i o)
      exact ⟨gone.acceptances, gone.asked, gone.line, clock⟩

end Stands

section Settled

-- Who is left in line when somebody leaves it.
theorem State.map_ticket_filter (s : State σ) (n : Nat) :
    (s.waiters.filter fun e => e.ticket != n).map Entry.ticket = s.inLine.filter (· != n) :=
  (List.filter_map (p := (· != n))).symm

/-- The caller who leaves the line by a move. -/
def State.quitter? (s : State σ) : Move → Option Nat
  | .call (.withdraw n) => if n ∈ s.inLine then some n else none
  | _ => none

/-- The callers who leave the line in a run, in order. -/
def State.quitters (q : Setup σ) : List Move → State σ → List Nat
  | [], _ => []
  | m :: rest, s => (s.quitter? m).toList ++ quitters q rest (s.move q m)

/-- Everybody who asked was accepted or turned away, or waits in line, or has left the
    line, and only one of these. -/
def State.Settled (s : State σ) (gone : List Nat) : Prop :=
  ∀ n, s.accepted.count n + s.rejected.count n + s.inLine.count n + gone.count n =
    if n < s.asked then 1 else 0

namespace State.Settled

variable {gone : List Nat}

theorem stands (settled : s.Settled gone) (stands : Stands s t) : t.Settled gone := by
  intro n
  have before := settled n
  rw [stands.accepted, stands.asked]
  rcases stands.line with ⟨same, -, rejected⟩ | ⟨nobody, rejected⟩
  · rw [rejected, show t.inLine = s.inLine from congrArg (List.map Entry.ticket) same]
    exact before
  · rw [rejected, show t.inLine = [] from congrArg (List.map Entry.ticket) nobody, List.count_append,
      List.count_reverse, List.count_nil]
    omega

-- The next to ask gets the next number, and is somewhere.
theorem of_next (settled : s.Settled gone) (asked : t.asked = s.asked + 1)
    (placed : ∀ n, t.accepted.count n + t.rejected.count n + t.inLine.count n =
      s.accepted.count n + s.rejected.count n + s.inLine.count n +
        if s.asked = n then 1 else 0) : t.Settled gone := by
  intro n
  have before := settled n
  rw [placed, asked]
  split at before <;> split <;> split <;> omega

theorem count_filter_ne (line : List Nat) (n x : Nat) :
    (line.filter (· != n)).count x = if n = x then 0 else line.count x := by
  by_cases own : n = x
  · subst own
    rw [if_pos rfl]
    exact List.count_eq_zero_of_not_mem fun mem =>
      absurd rfl (bne_iff_ne.mp (List.mem_filter.mp mem).2)
  · rw [if_neg own]
    exact List.count_filter (p := (· != n)) (bne_iff_ne.mpr (Ne.symm own))

/-- Every move keeps account of everybody. -/
theorem move (q : Setup σ) (m : Move) (o : Orderly s) (settled : s.Settled gone) :
    (s.move q m).Settled (gone ++ (s.quitter? m).toList) := by
  have effect := Effect.of_move q m s
  generalize s.move q m = t at effect
  -- Who does not leave the line is not told apart.
  have same {u : State σ} (kept : u.Settled gone) (none : s.quitter? m = none) :
      u.Settled (gone ++ (s.quitter? m).toList) := by
    rw [none, Option.toList_none, List.append_nil]
    exact kept
  cases effect with
  | nothing _ idles =>
    refine same settled ?_
    unfold State.quitter?
    split
    · exact absurd idles id
    · rfl
  | start | dropHandle => exact same settled rfl
  | wait => exact same settled rfl
  | close => exact same (settled.stands (.close s)) rfl
  | lose => exact same (settled.stands (.leave _ s)) rfl
  | work own work calm =>
    refine same (settled.stands (.work o work calm)) ?_
    rcases own with rfl | ⟨span, rfl⟩ <;> rfl
  | turnAway send held shut =>
    refine same (settled.of_next rfl fun n => ?_) rfl
    show s.accepted.count n + (s.asked :: s.rejected).count n + s.inLine.count n = _
    rw [List.count_cons]
    simp only [beq_iff_eq]
    omega
  | accept send held opened alive room =>
    refine same (settled.of_next rfl fun n => ?_) rfl
    show (s.asked :: s.accepted).count n + s.rejected.count n + s.inLine.count n = _
    rw [List.count_cons]
    simp only [beq_iff_eq]
    omega
  | lineUp send held opened alive full =>
    refine same (settled.of_next rfl fun n => ?_) rfl
    show s.accepted.count n + s.rejected.count n +
      ((s.waiters ++ [Entry.mk s.asked send]).map Entry.ticket).count n = _
    rw [List.map_append, List.count_append, List.map_singleton, List.count_singleton]
    simp only [beq_iff_eq, State.inLine]
    omega
  | depart n absent =>
    refine same settled ?_
    exact if_neg absent
  | leaveLine n waits =>
    intro x
    have before := settled x
    have once := settled n
    have there : 0 < s.inLine.count n := List.count_pos_iff.mpr waits
    rw [show s.quitter? (.call (.withdraw n)) = some n from if_pos waits, Option.toList_some,
      List.count_append, List.count_singleton]
    show s.accepted.count x + s.rejected.count x +
      ((s.waiters.filter fun e => e.ticket != n).map Entry.ticket).count x +
        (gone.count x + if n == x then 1 else 0) = if x < s.asked then 1 else 0
    rw [s.map_ticket_filter, count_filter_ne]
    simp only [beq_iff_eq]
    by_cases own : n = x
    · subst own
      rw [if_pos rfl, if_pos rfl]
      split at once <;> omega
    · rw [if_neg own, if_neg own]
      exact before
  | @store front e rest granted waiters =>
    refine same (fun n => ?_) rfl
    have before := settled n
    show (e.ticket :: s.accepted).count n + s.rejected.count n +
      ((front ++ rest).map Entry.ticket).count n + gone.count n = _
    unfold State.inLine at before
    rw [waiters, List.map_append, List.count_append, List.map_cons, List.count_cons] at before
    rw [List.count_cons, List.map_append, List.count_append]
    exact Eq.trans (by omega) before

end State.Settled

/-- Everybody who asked is accounted for in every run. -/
theorem State.settled_play (q : Setup σ) (moves : List Move) {gone : List Nat} (o : Orderly s)
    (settled : s.Settled gone) : (s.play q moves).Settled (gone ++ s.quitters q moves) := by
  induction moves generalizing s gone with
  | nil =>
    rw [State.quitters, List.append_nil]
    exact settled
  | cons m rest ih =>
    have others := ih (State.orderly_play q [m] o) (settled.move q m o)
    rw [List.append_assoc] at others
    exact others

end Settled

section Lists

variable {α : Type} {x y : α} {front rest line : List α} {places : Nat}

-- Whoever was handed a place keeps it when somebody else leaves the line.
theorem mem_take_filter {p : α → Bool} (handed : x ∈ line.take places) (stays : p x = true) :
    x ∈ (line.filter p).take (min places (line.filter p).length) := by
  have first : (line.take places).filter p <+: line.filter p :=
    (List.take_prefix places line).filter p
  have few : ((line.take places).filter p).length ≤ min places (line.filter p).length := by
    have most := List.length_filter_le p (line.take places)
    have part := first.length_le
    rw [List.length_take] at most
    omega
  exact (List.prefix_take_iff.mpr ⟨first, few⟩).subset (List.mem_filter.mpr ⟨handed, stays⟩)

-- Whoever was handed a place keeps it when somebody else stores an entry.
theorem mem_take_erase (handed : x ∈ (front ++ y :: rest).take places)
    (within : front.length < places) (other : x ≠ y) :
    x ∈ (front ++ rest).take (places - 1) := by
  rcases Nat.exists_eq_add_of_lt within with ⟨more, rfl⟩
  rw [show front.length + more + 1 - 1 = front.length + more from rfl,
    List.take_length_add_append]
  rw [show front.length + more + 1 = front.length + (more + 1) from rfl,
    List.take_length_add_append, List.take_succ_cons, List.mem_append, List.mem_cons] at handed
  rw [List.mem_append]
  exact handed.imp_right fun behind => behind.resolve_left other

end Lists

/-- The line is in order, and acceptances are in time. -/
structure InOrder (s : State σ) : Prop where
  /-- Callers line up in the order of asking. -/
  line : s.inLine.Pairwise (· < ·)
  /-- Nobody is in line who did not ask. -/
  asked : ∀ n ∈ s.inLine, n < s.asked
  /-- Nobody was accepted who did not ask, or later than now. -/
  past : ∀ a ∈ s.acceptances, a.1 ≤ s.now ∧ a.2 < s.asked
  /-- Nobody was accepted at a later instant than somebody who asked after it. -/
  turns : ∀ a ∈ s.acceptances, ∀ b ∈ s.acceptances, a.2 < b.2 → a.1 ≤ b.1
  /-- Whoever was overtaken in line was handed a place, and was overtaken just now. -/
  handed : ∀ n ∈ s.inLine, ∀ a ∈ s.acceptances, n < a.2 →
    a.1 = s.now ∧ n ∈ s.inLine.take s.granted

namespace InOrder

theorem fresh (o : Surroundings σ) : InOrder (State.fresh o) :=
  ⟨List.Pairwise.nil, fun _ => nofun, fun _ => nofun, fun _ => nofun, fun _ => nofun⟩

-- Nobody is accepted, and the line is no longer than it was.
theorem stands (i : InOrder s) (stands : Stands s t) : InOrder t := by
  have later : s.now ≤ t.now := stands.clock.elim (fun same => Nat.le_of_eq same.symm) And.left
  have past : ∀ a ∈ t.acceptances, a.1 ≤ t.now ∧ a.2 < t.asked := by
    rw [stands.acceptances, stands.asked]
    exact fun a mem => ⟨Nat.le_trans (i.past a mem).1 later, (i.past a mem).2⟩
  have turns : ∀ a ∈ t.acceptances, ∀ b ∈ t.acceptances, a.2 < b.2 → a.1 ≤ b.1 := by
    rw [stands.acceptances]
    exact i.turns
  rcases stands.line with ⟨same, places, -⟩ | ⟨nobody, -⟩
  · have line : t.inLine = s.inLine := congrArg (List.map Entry.ticket) same
    refine ⟨line ▸ i.line, ?_, past, turns, ?_⟩
    · rw [line, stands.asked]
      exact i.asked
    · rw [line, stands.acceptances]
      intro n waits a mem overtaken
      rcases i.handed n waits a mem overtaken with ⟨now, holds⟩
      rcases stands.clock with still | ⟨-, none⟩
      · exact ⟨now.trans still.symm, (List.take_subset_take_left _ places) holds⟩
      · rw [none] at holds
        exact absurd holds List.not_mem_nil
  · have line : t.inLine = [] := congrArg (List.map Entry.ticket) nobody
    refine ⟨line ▸ List.Pairwise.nil, ?_, past, turns, ?_⟩ <;>
    · rw [line]
      exact fun _ => nofun

-- Somebody is accepted now whom nobody in line asked before, but those who were handed
-- places.
theorem accepts {n : Nat} (i : InOrder s) (line : t.inLine.Pairwise (· < ·))
    (asked : ∀ m ∈ t.inLine, m < t.asked) (now : t.now = s.now)
    (accepted : t.acceptances = (s.now, n) :: s.acceptances) (more : s.asked ≤ t.asked)
    (known : n < t.asked) (first : ∀ a ∈ s.acceptances, n < a.2 → a.1 = s.now)
    (handed : ∀ m ∈ t.inLine, ∀ a ∈ t.acceptances, m < a.2 →
      a.1 = s.now ∧ m ∈ t.inLine.take t.granted) : InOrder t := by
  refine ⟨line, asked, ?_, ?_, now ▸ handed⟩
  · rw [accepted, now]
    intro a mem
    rcases List.mem_cons.mp mem with rfl | mem
    · exact ⟨Nat.le_refl _, known⟩
    · exact ⟨(i.past a mem).1, Nat.lt_of_lt_of_le (i.past a mem).2 more⟩
  · rw [accepted]
    intro a ha b hb earlier
    rcases List.mem_cons.mp ha with rfl | ha <;> rcases List.mem_cons.mp hb with rfl | hb
    · exact Nat.le_refl _
    · exact Nat.le_of_eq (first b hb earlier).symm
    · exact (i.past a ha).1
    · exact i.turns a ha b hb earlier

-- A caller finds a place that nobody in line waits for.
theorem accept {send : Send} (i : InOrder s) (p : Spaced q s) (room : s.depth < q.places) :
    InOrder ({ s with asked := s.asked + 1 }.store ⟨s.asked, send⟩) := by
  -- Everybody in line was handed a place.
  have short : s.inLine.length ≤ s.granted := by
    have full := p.full
    unfold State.inLine
    rw [List.length_map]
    omega
  have all : s.inLine.take s.granted = s.inLine := List.take_of_length_le short
  refine i.accepts (n := s.asked) (t := { s with asked := s.asked + 1 }.store ⟨s.asked, send⟩)
    i.line (fun m waits => Nat.lt_succ_of_lt (i.asked m waits)) rfl rfl (Nat.le_succ _)
    (Nat.lt_succ_self _) ?_ ?_
  · exact fun a mem later => absurd (i.past a mem).2 (Nat.lt_asymm later)
  · intro m waits a mem overtaken
    refine ⟨?_, ?_⟩
    · rcases List.mem_cons.mp mem with rfl | mem
      · rfl
      · exact (i.handed m waits a mem overtaken).1
    · show m ∈ s.inLine.take s.granted
      rw [all]
      exact waits

-- A caller who was handed a place stores its entry.
theorem store {front rest : List Entry} {e : Entry} (i : InOrder s)
    (granted : front.length < s.granted) (waiters : s.waiters = front ++ e :: rest) :
    InOrder (State.store e { s with waiters := front ++ rest, granted := s.granted - 1 }) := by
  have before : s.inLine =
      front.map Entry.ticket ++ e.ticket :: rest.map Entry.ticket := by
    unfold State.inLine
    rw [waiters, List.map_append, List.map_cons]
  have after : (State.store e
      { s with waiters := front ++ rest, granted := s.granted - 1 }).inLine =
        front.map Entry.ticket ++ rest.map Entry.ticket := List.map_append
  have part : (front.map Entry.ticket ++ rest.map Entry.ticket).Sublist s.inLine := by
    rw [before]
    exact (List.sublist_cons_self _ _).append_left _
  have there : e.ticket ∈ s.inLine := by
    rw [before]
    exact List.mem_append_right _ List.mem_cons_self
  have within : (front.map Entry.ticket).length < s.granted := by
    rw [List.length_map]
    exact granted
  -- Nobody else in line has its number.
  have other {m : Nat} (waits : m ∈ front.map Entry.ticket ++ rest.map Entry.ticket) :
      m ≠ e.ticket := by
    have line := i.line
    rw [before, List.pairwise_append, List.pairwise_cons] at line
    rcases List.mem_append.mp waits with ahead | behind
    · exact Nat.ne_of_lt (line.2.2 m ahead _ List.mem_cons_self)
    · exact Nat.ne_of_gt (line.2.1.1 m behind)
  refine i.accepts (n := e.ticket) (after ▸ i.line.sublist part) ?_ rfl rfl (Nat.le_refl _)
    (i.asked _ there) ?_ ?_
  · rw [after]
    exact fun m waits => i.asked m (part.subset waits)
  · exact fun a mem later => (i.handed _ there a mem later).1
  · rw [after]
    intro m waits a mem overtaken
    rcases List.mem_cons.mp mem with rfl | mem
    · -- Who is overtaken stands before it in line.
      refine ⟨rfl, ?_⟩
      have line := i.line
      rw [before, List.pairwise_append, List.pairwise_cons] at line
      rcases List.mem_append.mp waits with ahead | behind
      · refine (List.prefix_take_iff.mpr ⟨List.prefix_append _ _, ?_⟩).subset ahead
        show (front.map Entry.ticket).length ≤ s.granted - 1
        omega
      · exact absurd (line.2.1.1 m behind) (Nat.lt_asymm overtaken)
    · rcases i.handed m (part.subset waits) a mem overtaken with ⟨now, holds⟩
      rw [before] at holds
      exact ⟨now, mem_take_erase holds within (other waits)⟩

/-- Every move keeps the line in order. -/
theorem move (q : Setup σ) (m : Move) (p : Spaced q s) (o : Orderly s) (i : InOrder s) :
    InOrder (s.move q m) := by
  have effect := Effect.of_move q m s
  generalize s.move q m = t at effect
  cases effect with
  | nothing => exact i
  | start | depart | dropHandle =>
    exact i.stands ⟨rfl, rfl, Or.inl ⟨rfl, Nat.le_refl _, rfl⟩, Or.inl rfl⟩
  | wait span granted rest =>
    exact i.stands ⟨rfl, rfl, Or.inl ⟨rfl, Nat.le_refl _, rfl⟩,
      Or.inr ⟨Nat.le_max_left _ _, granted⟩⟩
  | close => exact i.stands (.close s)
  | lose => exact i.stands (.leave _ s)
  | work own work calm => exact i.stands (.work o work calm)
  | turnAway send held shut =>
    exact ⟨i.line, fun n waits => Nat.lt_succ_of_lt (i.asked n waits),
      fun a mem => ⟨(i.past a mem).1, Nat.lt_succ_of_lt (i.past a mem).2⟩, i.turns, i.handed⟩
  | accept send held opened alive room => exact i.accept p room
  | lineUp send held opened alive full =>
    have line : State.inLine
        { s with asked := s.asked + 1, waiters := s.waiters ++ [⟨s.asked, send⟩] } =
          s.inLine ++ [s.asked] := List.map_append
    refine ⟨?_, ?_, fun a mem => ⟨(i.past a mem).1, Nat.lt_succ_of_lt (i.past a mem).2⟩,
      i.turns, ?_⟩
    · rw [line]
      exact List.pairwise_append.mpr ⟨i.line, List.pairwise_singleton _ _, fun n waits m last =>
        (List.mem_singleton.mp last) ▸ i.asked n waits⟩
    · rw [line]
      intro n waits
      rcases List.mem_append.mp waits with waits | last
      · exact Nat.lt_succ_of_lt (i.asked n waits)
      · exact (List.mem_singleton.mp last) ▸ Nat.lt_succ_self _
    · rw [line]
      intro n waits a mem overtaken
      rcases List.mem_append.mp waits with waits | last
      · rcases i.handed n waits a mem overtaken with ⟨now, holds⟩
        refine ⟨now, (List.prefix_take_iff.mpr ⟨?_, List.length_take_le _ _⟩).subset holds⟩
        exact (List.take_prefix _ _).trans (List.prefix_append _ _)
      · rw [List.mem_singleton.mp last] at overtaken
        exact absurd (i.past a mem).2 (Nat.lt_asymm overtaken)
  | leaveLine n waits =>
    have line := s.map_ticket_filter n
    have places : (s.waiters.filter fun e => e.ticket != n).length =
        (s.inLine.filter (· != n)).length := by rw [← line, List.length_map]
    refine ⟨?_, ?_, i.past, i.turns, ?_⟩ <;> unfold State.inLine <;> dsimp only <;> rw [line]
    · exact i.line.sublist List.filter_sublist
    · exact fun m stays => i.asked m (List.mem_filter.mp stays).1
    · intro m stays a mem overtaken
      have stays := List.mem_filter.mp stays
      rcases i.handed m stays.1 a mem overtaken with ⟨now, holds⟩
      rw [places]
      exact ⟨now, mem_take_filter holds stays.2⟩
  | store granted waiters => exact i.store granted waiters

-- Between any two moves of a run the line is in order, and the places are accounted for.
theorem leads (way : (State.fresh (.fresh world)).Leads q s) :
    InOrder s ∧ Spaced q s ∧ Orderly s := by
  rcases way with ⟨moves, rfl⟩
  refine State.play_induction q
    (P := fun s : State σ => InOrder s ∧ Spaced q s ∧ Orderly s) ?_ moves _
    ⟨.fresh _, .fresh q _, .fresh _⟩
  rintro s m ⟨i, p, orderly⟩
  exact ⟨i.move q m p orderly, p.move m, State.orderly_play q [m] orderly⟩

/-- The line is in order in every run. -/
theorem play (q : Setup σ) (moves : List Move) (world : σ) :
    InOrder ((State.fresh (.fresh world)).play q moves) :=
  (leads ⟨moves, rfl⟩).1

end InOrder

section Overtaking

/-- A move can let somebody store an entry before somebody who was handed a place
    earlier: it asks while a place is on its way, or stores an entry past others. -/
def State.Overtakes (s : State σ) : Move → Prop
  | .call (.enqueue _) => 0 < s.granted
  | .store before => 0 < before
  | _ => False

-- A move made in its turn overtakes nobody.
theorem State.Timely.fair {m : Move} (timely : s.Timely m) : ¬s.Overtakes m := by
  cases m with
  | work => exact id
  | store before => exact fun past => absurd timely (Nat.ne_of_gt past)
  | call c =>
    cases c with
    | enqueue send => exact fun past => absurd timely (Nat.ne_of_gt past)
    | _ => exact id

/-- Everybody is accepted in the order of asking. -/
structure Listed (s : State σ) : Prop where
  /-- Whoever was accepted later asked later. -/
  accepted : s.accepted.Pairwise fun later earlier => earlier < later
  /-- Nobody was accepted who asked after somebody in line. -/
  inLine : ∀ n ∈ s.inLine, ∀ m ∈ s.accepted, m < n

namespace Listed

theorem fresh (world : σ) : Listed (State.fresh (.fresh world)) :=
  ⟨List.Pairwise.nil, fun _ => nofun⟩

-- Nobody is accepted, and the line is no longer than it was.
theorem of_part (l : Listed s) (accepted : t.accepted = s.accepted)
    (line : t.inLine ⊆ s.inLine) : Listed t :=
  ⟨accepted ▸ l.accepted, accepted ▸ fun n waits => l.inLine n (line waits)⟩

theorem stands (l : Listed s) (stands : Stands s t) : Listed t := by
  refine l.of_part stands.accepted ?_
  rcases stands.line with ⟨same, -, -⟩ | ⟨nobody, -⟩
  · rw [show t.inLine = s.inLine from congrArg (List.map Entry.ticket) same]
    exact List.Subset.refl _
  · rw [show t.inLine = [] from congrArg (List.map Entry.ticket) nobody]
    exact List.nil_subset _

/-- A move that does not overtake keeps the order. -/
theorem move (q : Setup σ) (m : Move) (fair : ¬s.Overtakes m) (i : InOrder s) (p : Spaced q s)
    (o : Orderly s) (l : Listed s) : Listed (s.move q m) := by
  have known : ∀ n ∈ s.accepted, n < s.asked := by
    intro n mem
    rw [← s.map_acceptances] at mem
    rcases List.mem_map.mp mem with ⟨a, there, rfl⟩
    exact (i.past a there).2
  have effect := Effect.of_move q m s
  generalize s.move q m = t at effect
  cases effect with
  | nothing => exact l
  | start | turnAway | depart | dropHandle | wait => exact ⟨l.accepted, l.inLine⟩
  | close => exact l.stands (.close s)
  | lose => exact l.stands (.leave _ s)
  | work own work calm => exact l.stands (.work o work calm)
  | accept send held opened alive room =>
    -- While no place is on its way, a place is free only if nobody is in line.
    have calm : s.granted = 0 := Nat.eq_zero_of_not_pos fair
    have nobody : s.waiters = [] := by
      have full := p.full
      exact List.length_eq_zero_iff.mp (by omega)
    refine ⟨List.pairwise_cons.mpr ⟨known, l.accepted⟩, ?_⟩
    show ∀ n ∈ s.waiters.map Entry.ticket, _
    rw [nobody]
    exact fun _ => nofun
  | lineUp send held opened alive full =>
    refine ⟨l.accepted, ?_⟩
    show ∀ n ∈ (s.waiters ++ [Entry.mk s.asked send]).map Entry.ticket, _
    rw [List.map_append]
    intro n waits m mem
    rcases List.mem_append.mp waits with waits | last
    · exact l.inLine n waits m mem
    · rw [List.mem_singleton.mp last]
      exact known m mem
  | leaveLine n waits =>
    refine l.of_part rfl ?_
    show (s.waiters.filter fun e => e.ticket != n).map Entry.ticket ⊆ s.inLine
    rw [s.map_ticket_filter n]
    exact List.filter_sublist.subset
  | @store front e rest granted waiters =>
    -- The first in line stores its entry.
    obtain rfl := List.length_eq_zero_iff.mp (Nat.eq_zero_of_not_pos fair)
    have line : s.inLine = e.ticket :: rest.map Entry.ticket := by
      unfold State.inLine
      rw [waiters]
      rfl
    have order := i.line
    rw [line, List.pairwise_cons] at order
    refine ⟨List.pairwise_cons.mpr ⟨?_, l.accepted⟩, ?_⟩
    · exact fun m mem => l.inLine e.ticket (line ▸ List.mem_cons_self) m mem
    · intro n waits m mem
      rcases List.mem_cons.mp mem with rfl | mem
      · exact order.1 n waits
      · exact l.inLine n (line ▸ List.mem_cons_of_mem _ waits) m mem

/-- In a run without moves that overtake nobody is overtaken. -/
theorem play (q : Setup σ) {moves : List Move} (world : σ)
    (fair : (State.fresh (.fresh world)).Along q (fun s m => ¬s.Overtakes m) moves) :
    Listed ((State.fresh (.fresh world)).play q moves) := by
  have all : Listed ((State.fresh (.fresh world)).play q moves) ∧
      (State.fresh (.fresh world)).Leads q ((State.fresh (.fresh world)).play q moves) := by
    refine State.along_induction
      (I := fun s : State σ => Listed s ∧ (State.fresh (.fresh world)).Leads q s) ?_ fair
      ⟨fresh world, .refl _⟩
    rintro s m fair ⟨l, way⟩
    rcases InOrder.leads way with ⟨i, p, o⟩
    exact ⟨l.move q m fair i p o, way.trans (.move m s)⟩
  exact all.1

end Listed

end Overtaking

end Queue

end TxRelay
