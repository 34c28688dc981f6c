import TxRelay.Proofs.Queue.Bystanders
import TxRelay.Proofs.Queue.Line

/-!
# Leaving Disturbs Nobody

A caller may leave at any time, by dropping its call. If its submission was accepted,
it stays in the queue: it is sent, waited for and answered, and nobody is there to
hear the answer. If the caller waited for a place, it is as if it had never asked.

For the first, the run in which it leaves is compared with the run in which it stays;
they differ in nothing but its departure. For the second, it is compared with the run
in which it did not ask. There everybody who asked later has a smaller number, and
that is all. A caller who was handed a place does not wait for one any more, even
before it stores its entry: others may have found the queue full because of it, and the
gauge may show its place (`leaver_with_place_missed`).

## Main definitions

* `Queue.Unserved`: A caller waits for a place and was not handed one.
* `Queue.Nowhere`: A caller asked, and the queue knows nothing of it.
* `Queue.Outlook.deaf`, `Queue.Outlook.without`: The two outlooks.
* `Queue.Unmoved`: Two runs differ in nothing but somebody's departure.

## Theorems

* `Queue.Unserved.of_step`: Whoever was not handed a place was not handed one before.
* `Queue.Nowhere.kept`: Whoever is nowhere stays nowhere.
* `Queue.Outlook.ticket_without`: The numbers of the others, without a caller.
* `Queue.leaving_disturbs_nobody`: The two comparisons.
* `Queue.leaver_with_place_missed`: A caller who was handed a place leaves.
-/

namespace TxRelay

namespace Queue

variable {σ : Type} {q : Setup σ} {s t : State σ} {n : Nat} {h : List (Nat × Happening)}

/-- A caller waits for a place and was not handed one. -/
structure Unserved (n : Nat) (s : State σ) : Prop where
  /-- It is in line. -/
  inLine : n ∈ s.inLine
  /-- It was not handed a place. -/
  handed : ∀ e ∈ s.waiters.take s.granted, e.ticket ≠ n

/-- A caller asked, and the queue knows nothing of it. -/
structure Nowhere (n : Nat) (s : State σ) : Prop where
  /-- It asked. -/
  asked : n < s.asked
  /-- It is not in line. -/
  inLine : n ∉ s.inLine
  /-- It was not accepted. -/
  accepted : n ∉ s.accepted
  /-- It was not turned away. -/
  rejected : n ∉ s.rejected

namespace Ledger

-- What is in hand was accepted.
theorem accepted_of_inHand (l : Ledger s) (hand : n ∈ s.inHand) : n ∈ s.accepted := by
  have balance := l.balance n
  have some := List.count_pos_iff.mpr hand
  refine List.count_pos_iff.mp ?_
  omega

-- Whoever was accepted asked, and so did whoever is in line.
theorem lt_asked (l : Ledger s) (known : n ∈ s.accepted ∨ n ∈ s.inLine) : n < s.asked := by
  have once := l.once n
  refine Decidable.byContradiction fun later => ?_
  rw [if_neg later] at once
  rcases known with accepted | line
  · have some := List.count_pos_iff.mpr accepted
    omega
  · have some := List.count_pos_iff.mpr line
    omega

-- Whoever is in line was told nothing.
theorem of_inLine (l : Ledger s) (line : n ∈ s.inLine) : n ∉ s.accepted ∧ n ∉ s.rejected := by
  have once := l.once n
  have some := List.count_pos_iff.mpr line
  rw [if_pos (l.lt_asked (Or.inr line))] at once
  refine ⟨List.count_eq_zero.mp ?_, List.count_eq_zero.mp ?_⟩
  · omega
  · omega

end Ledger

namespace Unserved

-- Nobody is in an empty line.
theorem false_of_empty (u : Unserved n t) (empty : t.waiters = []) : False := by
  have line := u.inLine
  unfold State.inLine at line
  rw [empty] at line
  exact List.not_mem_nil line

/-- Whoever was not handed a place yet was not handed one before. -/
theorem of_step (step : Step q s h t) (l : Ledger s) (o : Orderly s) (asked : n < s.asked)
    (u : Unserved n t) : Unserved n s := by
  have handed := u.handed
  -- Nobody is in line when the worker went away.
  have gone {w : State σ} {how : Ending} (line : Unserved n (w.leave how)) : False := by
    rcases w.leave_shape how with ⟨m, shape⟩
    exact line.false_of_empty (by rw [shape]; rfl)
  cases step with
  | start | turnAway | accept | depart | dropHandle | goesOn | isOver | wait =>
    exact ⟨u.inLine, u.handed⟩
  | lineUp send held opened alive full =>
    have line := u.inLine
    unfold State.inLine at line
    rw [List.map_append, List.mem_append] at line
    rcases line with line | new
    · refine ⟨line, ?_⟩
      dsimp only at handed
      rw [List.take_append_of_le_length o.placed] at handed
      exact handed
    · exact absurd asked (Nat.not_lt_of_le (Nat.le_of_eq (List.mem_singleton.mp new).symm))
  | leaveLine k =>
    rcases List.mem_map.mp u.inLine with ⟨e, mem, same⟩
    rcases List.mem_filter.mp mem with ⟨mem, other⟩
    refine ⟨List.mem_map.mpr ⟨e, mem, same⟩, ?_⟩
    intro x first named
    have stays : (x.ticket != k) = true := by
      rw [named, ← same]
      exact other
    exact handed x (mem_take_filter first stays) named
  | close held running =>
    rcases s.close_shape with ⟨m, shape⟩
    exact (u.false_of_empty (by rw [shape]; rfl)).elim
  | lose | finish | crashes | drain => exact (gone u).elim
  | @store front e rest granted waiters =>
    have line : n ∈ (front ++ rest).map Entry.ticket := u.inLine
    have part : (front ++ rest).Sublist s.waiters := by
      rw [waiters]
      exact (List.sublist_cons_self e rest).append_left front
    refine ⟨(part.map Entry.ticket).subset line, ?_⟩
    rw [waiters]
    intro x first named
    by_cases same : x = e
    · -- Nobody is in line twice.
      have once := l.once n
      have before : s.inLine.count n = ((front ++ rest).map Entry.ticket).count n + 1 := by
        unfold State.inLine
        rw [waiters, List.map_append, List.map_append, List.map_cons, List.count_append,
          List.count_append, ← same, named, List.count_cons_self, Nat.add_assoc]
      have again := List.count_pos_iff.mpr line
      rw [if_pos asked] at once
      omega
    · exact handed x (mem_take_erase first granted same) named
  | @take e rest stage opened buffer =>
    have line := u.inLine
    unfold State.inLine at line
    rw [(s.receive_frame q e rest).1] at line handed
    refine ⟨line, fun x first => handed x ?_⟩
    -- One place more is handed out, unless everybody has one.
    have more : s.granted ≤ min (s.granted + 1) s.waiters.length := by
      have placed := o.placed
      omega
    exact List.take_subset_take_left s.waiters more first

/-- Whoever was not handed a place by the end was not handed one on the way. -/
theorem of_leads (way : s.Leads q t) (l : Ledger s) (o : Orderly s) (asked : n < s.asked)
    (u : Unserved n t) : Unserved n s := by
  rcases way with ⟨moves, same⟩
  subst same
  induction moves generalizing s with
  | nil => exact u
  | cons m rest ih =>
    rcases Step.of_move q m s with ⟨same, -⟩ | step
    · have later := ih (s := s.move q m)
      rw [same] at later
      refine later l o asked ?_
      rw [← same]
      exact u
    · have later := Nat.lt_of_lt_of_le asked step.asked_le
      exact of_step step l o asked (ih (l.kept step) (o.kept step) later u)

end Unserved

namespace Nowhere

-- Nobody new is in line, accepted or turned away.
theorem of_subset (g : Nowhere n s) (asked : s.asked ≤ t.asked)
    (inLine : n ∈ t.inLine → n ∈ s.inLine ∨ n = s.asked)
    (accepted : n ∈ t.accepted → n ∈ s.accepted ∨ n ∈ s.inLine ∨ n = s.asked)
    (rejected : n ∈ t.rejected → n ∈ s.rejected ∨ n ∈ s.inLine ∨ n = s.asked) : Nowhere n t := by
  have next : n ≠ s.asked := Nat.ne_of_lt g.asked
  refine ⟨Nat.lt_of_lt_of_le g.asked asked, fun mem => ?_, fun mem => ?_, fun mem => ?_⟩
  · exact (inLine mem).elim g.inLine next
  · exact (accepted mem).elim g.accepted (Or.rec g.inLine next)
  · exact (rejected mem).elim g.rejected (Or.rec g.inLine next)

-- Nobody is accepted, and only those in line are turned away.
theorem stands (g : Nowhere n s) (stands : Stands s t) : Nowhere n t := by
  refine g.of_subset (Nat.le_of_eq stands.asked.symm) ?_ (stands.accepted ▸ Or.inl) ?_
  · rcases stands.line with ⟨same, -⟩ | ⟨nobody, -⟩
    · rw [show t.inLine = s.inLine from congrArg (List.map Entry.ticket) same]
      exact Or.inl
    · rw [show t.inLine = [] from congrArg (List.map Entry.ticket) nobody]
      exact fun mem => absurd mem List.not_mem_nil
  · rcases stands.line with ⟨-, -, rejected⟩ | ⟨-, rejected⟩
    · rw [rejected]
      exact Or.inl
    · rw [rejected]
      intro mem
      rcases List.mem_append.mp mem with line | before
      · exact Or.inr (Or.inl (List.mem_reverse.mp line))
      · exact Or.inl before

/-- Whoever is nowhere stays nowhere. -/
theorem kept (step : Step q s h t) (g : Nowhere n s) : Nowhere n t := by
  have asked := step.asked_le
  -- Whoever is told something when it asks is the next to ask.
  have next {told : List Nat} (mem : n ∈ s.asked :: told) :
      n ∈ told ∨ n ∈ s.inLine ∨ n = s.asked := by
    rcases List.mem_cons.mp mem with new | before
    · exact Or.inr (Or.inr new)
    · exact Or.inl before
  cases step with
  | start | depart | dropHandle | goesOn | wait => exact ⟨g.asked, g.inLine, g.accepted, g.rejected⟩
  | turnAway held shut => exact g.of_subset asked Or.inl Or.inl next
  | accept send held opened alive room => exact g.of_subset asked Or.inl next Or.inl
  | lineUp send held opened alive full =>
    refine g.of_subset asked ?_ Or.inl Or.inl
    intro mem
    unfold State.inLine at mem
    rw [List.map_append, List.mem_append] at mem
    exact mem.imp id List.mem_singleton.mp
  | leaveLine k =>
    refine g.of_subset asked ?_ Or.inl Or.inl
    exact fun mem => Or.inl ((List.filter_sublist.map Entry.ticket).subset mem)
  | close => exact g.stands (.close s)
  | lose | finish => exact g.stands (.leave _ s)
  | @store front e rest granted waiters =>
    have part : (front ++ rest).Sublist s.waiters := by
      rw [waiters]
      exact (List.sublist_cons_self e rest).append_left front
    refine g.of_subset asked ?_ ?_ Or.inl
    · exact fun mem => Or.inl ((part.map Entry.ticket).subset mem)
    · intro mem
      rcases List.mem_cons.mp mem with rfl | before
      · refine Or.inr (Or.inl (List.mem_map_of_mem ?_))
        rw [waiters]
        exact List.mem_append_right front List.mem_cons_self
      · exact Or.inl before
  | @take e rest stage opened buffer =>
    rw [(s.receive_frame q e rest).1]
    exact ⟨g.asked, g.inLine, g.accepted, g.rejected⟩
  | @isOver i m d o r flight calm =>
    refine g.of_subset asked Or.inl ?_ ?_
    · rw [State.accepted_of_events (s := s) (e := [(max s.now m, s.reply i r)]) rfl]
      simp only [List.filterMap_cons, State.accepted?_reply, List.filterMap_nil, List.nil_append]
      exact Or.inl
    · rw [State.rejected_of_events (s := s) (e := [(max s.now m, s.reply i r)]) rfl]
      simp only [List.filterMap_cons, State.rejected?_reply, List.filterMap_nil, List.nil_append]
      exact Or.inl
  | @crashes i m d o text flight calm =>
    have later : Nowhere n (s.after m o) := ⟨g.asked, g.inLine, g.accepted, g.rejected⟩
    exact later.stands (.leave _ _)
  | drain stage closed =>
    rcases s.drain_shape (by rw [stage]; rfl) with ⟨m, shape⟩
    rw [shape]
    exact g.stands (.cleared .finished _ _ m s)

-- Whoever is nowhere is nowhere ever after.
theorem of_leads (way : s.Leads q t) (g : Nowhere n s) : Nowhere n t := by
  rcases way with ⟨moves, rfl⟩
  exact State.step_induction q (fun _ _ _ step before => before.kept step) moves s g

-- Whoever leaves the line is nowhere.
theorem of_withdraw (l : Ledger s) (line : n ∈ s.inLine) : Nowhere n (s.withdraw n) := by
  rcases List.mem_map.mp line with ⟨e, mem, same⟩
  have waits : (s.waiters.any fun e => e.ticket == n) = true :=
    List.any_eq_true.mpr ⟨e, mem, beq_iff_eq.mpr same⟩
  have told := l.of_inLine line
  unfold State.withdraw
  rw [if_pos waits]
  refine ⟨l.lt_asked (Or.inr line), fun still => ?_, told.1, told.2⟩
  rcases List.mem_map.mp still with ⟨x, mem, named⟩
  have other := (List.mem_filter.mp mem).2
  rw [named, bne_self_eq_false] at other
  exact Bool.noConfusion other

end Nowhere

namespace Outlook

/-- The outlook that does not tell whether a caller hears its answer. -/
def hush (n : Nat) : Outlook where
  keeps _ := true
  deaf k := k == n

/-- The outlook that leaves a caller out. -/
def without (n : Nat) : Outlook where
  keeps k := k != n
  deaf _ := false

/-- Without a caller, whoever asked later has the number before its own. -/
theorem ticket_without (n k : Nat) : (without n).ticket k = if k ≤ n then k else k - 1 := by
  induction k with
  | zero => exact (if_pos (Nat.zero_le n)).symm
  | succ k ih =>
    have keeps : (without n).keeps k = true ↔ k ≠ n := bne_iff_ne
    rw [ticket_succ, ih]
    by_cases own : k = n
    · rw [if_neg fun kept => keeps.mp kept own]
      split <;> split <;> omega
    · rw [if_pos (keeps.mpr own)]
      split <;> split <;> omega

theorem ticket_hush (n : Nat) : (hush n).ticket = id := by
  funext k
  unfold ticket hush
  dsimp only
  rw [List.countP_true, List.length_range]
  rfl

-- Nobody is left out who is only not told to hear.
theorem command_hush (n : Nat) : (hush n).command = some := by
  funext c
  cases c with
  | withdraw m =>
    unfold command
    rw [ticket_hush]
    rfl
  | _ => rfl

theorem move_hush (n : Nat) : (hush n).move = some := by
  funext m
  unfold move
  rw [command_hush]
  cases m <;> rfl

end Outlook

/-- Two states differ at most in whether a caller left, and so hears its answer. -/
structure Unmoved (n : Nat) (s t : State σ) : Prop where
  /-- Everything else is the same. -/
  same : t = { s with departed := t.departed, events := t.events }
  /-- Everybody was told the same at the same times. -/
  told : t.events.map (Outlook.hush n).heard = s.events.map (Outlook.hush n).heard
  /-- The same others left. -/
  departed : ∀ k, k ≠ n → (k ∈ t.departed ↔ k ∈ s.departed)

theorem Shows.unmoved (h : Shows (.hush n) s t) : Unmoved n s t := by
  rcases h with ⟨d, e, heard, left⟩
  have line : (s.waiters.filter fun e => (Outlook.hush n).keeps e.ticket) = s.waiters :=
    filter_keeps fun _ _ => rfl
  refine ⟨?_, ?_, ?_⟩
  · unfold State.image
    rw [Outlook.ticket_hush, line, Stage.rename_id, Entry.map_rename_id, Entry.map_rename_id,
      Surroundings.rename_id]
    rfl
  · refine heard.trans (List.map_congr_left fun x _ => ?_)
    rw [Outlook.ticket_hush, Event.rename_id]
  · intro k other
    have hears : (Outlook.hush n).deaf ((Outlook.hush n).ticket k) = false := by
      rw [Outlook.ticket_hush]
      exact beq_false_of_ne other
    have same := left k rfl hears
    rw [Outlook.ticket_hush] at same
    exact same

section Reached

variable {world : σ}

theorem State.Leads.ledger (way : (State.fresh (.fresh world)).Leads q s) : Ledger s := by
  rcases way with ⟨moves, rfl⟩
  exact Ledger.play q moves world

theorem State.Leads.spaced (way : (State.fresh (.fresh world)).Leads q s) : Spaced q s := by
  rcases way with ⟨moves, rfl⟩
  exact Spaced.play q moves _

variable (q world)

-- Whoever is only not told to hear is in nobody's way.
theorem apart_hush (n : Nat) :
    Apart q (.hush n) fun s => (State.fresh (.fresh world)).Leads q s where
  orderly _ reached := reached.orderly (.fresh _)
  spaced _ reached := reached.spaced
  keeping _ _ := ⟨fun _ _ => rfl, fun _ _ => rfl⟩
  fair _ _ _ _ := ⟨fun _ => rfl, fun _ _ _ => rfl, fun _ _ => rfl⟩

-- Before it asks nobody is in anybody's way.
theorem apart_early (n : Nat) :
    Apart q (.without n) fun s => (State.fresh (.fresh world)).Leads q s ∧ s.asked ≤ n := by
  have other {s : State σ} (early : s.asked ≤ n) {k : Nat} (asked : k < s.asked) :
      (Outlook.without n).keeps k = true :=
    bne_iff_ne.mpr (Nat.ne_of_lt (Nat.lt_of_lt_of_le asked early))
  have inLine {s : State σ} (reached : (State.fresh (.fresh world)).Leads q s)
      (early : s.asked ≤ n) : ∀ e ∈ s.waiters, (Outlook.without n).keeps e.ticket = true :=
    fun e mem => other early (reached.ledger.lt_asked (Or.inr (List.mem_map_of_mem mem)))
  refine ⟨fun s p => p.1.orderly (.fresh _), fun s p => p.1.spaced, ?_, ?_⟩
  · rintro s ⟨reached, early⟩
    refine ⟨fun k hand => ?_, fun e mem => inLine reached early e (List.mem_of_mem_take mem)⟩
    exact other early (reached.ledger.lt_asked (Or.inl (reached.ledger.accepted_of_inHand hand)))
  · rintro s t ⟨reached, early⟩ ⟨reached', early'⟩
    refine ⟨fun asks => ?_, fun _ => inLine reached early,
      fun e mem => inLine reached' early' e (List.mem_of_mem_take mem)⟩
    exact bne_iff_ne.mpr (Nat.ne_of_lt (Nat.lt_of_lt_of_le asks early'))

-- While it waits for a place, it is in nobody's way.
theorem apart_unserved (n : Nat) :
    Apart q (.without n) fun s =>
      (State.fresh (.fresh world)).Leads q s ∧ n < s.asked ∧ Unserved n s := by
  refine ⟨fun s p => p.1.orderly (.fresh _), fun s p => p.1.spaced, ?_, ?_⟩
  · rintro s ⟨reached, asked, waits⟩
    refine ⟨fun k hand => bne_iff_ne.mpr ?_, fun e mem => bne_iff_ne.mpr (waits.handed e mem)⟩
    rintro rfl
    exact (reached.ledger.of_inLine waits.inLine).1 (reached.ledger.accepted_of_inHand hand)
  · rintro s t ⟨reached, asked, waits⟩ ⟨reached', asked', waits'⟩
    refine ⟨fun _ => bne_iff_ne.mpr (Nat.ne_of_gt asked), fun empty => ?_,
      fun e mem => bne_iff_ne.mpr (waits'.handed e mem)⟩
    exact (waits'.false_of_empty empty).elim

-- When it is nowhere, it is in nobody's way.
theorem apart_nowhere (n : Nat) :
    Apart q (.without n) fun s => (State.fresh (.fresh world)).Leads q s ∧ Nowhere n s := by
  have inLine {s : State σ} (gone : Nowhere n s) :
      ∀ e ∈ s.waiters, (Outlook.without n).keeps e.ticket = true := by
    intro e mem
    refine bne_iff_ne.mpr fun same => gone.inLine ?_
    exact List.mem_map.mpr ⟨e, mem, same⟩
  refine ⟨fun s p => p.1.orderly (.fresh _), fun s p => p.1.spaced, ?_, ?_⟩
  · rintro s ⟨reached, gone⟩
    refine ⟨fun k hand => bne_iff_ne.mpr ?_,
      fun e mem => inLine gone e (List.mem_of_mem_take mem)⟩
    rintro rfl
    exact gone.accepted (reached.ledger.accepted_of_inHand hand)
  · rintro s t ⟨reached, gone⟩ ⟨reached', gone'⟩
    exact ⟨fun _ => bne_iff_ne.mpr (Nat.ne_of_gt gone.asked), fun _ => inLine gone,
      fun e mem => inLine gone' e (List.mem_of_mem_take mem)⟩

end Reached

namespace Shows

variable {v : Outlook} {k : Nat}

-- Who is left out asks, and waits for a place.
theorem lineUp_out {places : Nat} {send : Send} (out : v.keeps s.asked = false)
    (waits : s.asked ∈ (s.enqueue places send).inLine) (l : Ledger s) (h : Shows v s t) :
    Shows v (s.enqueue places send) t := by
  -- Whoever is turned away or finds a place is not in line.
  have absent : s.asked ∉ s.inLine :=
    fun line => absurd (l.lt_asked (Or.inr line)) (Nat.lt_irrefl s.asked)
  have next := v.ticket_succ s.asked
  rw [out] at next
  unfold State.enqueue at waits ⊢
  dsimp only at waits ⊢
  by_cases shut : (s.shutdown || s.stage.ending?.isSome) = true
  · rw [if_pos shut] at waits
    exact absurd waits absent
  · rw [if_neg shut] at waits
    by_cases room : s.depth < places
    · rw [if_pos room] at waits
      exact absurd waits absent
    · rw [if_neg shut, if_neg room]
      have line : ((s.waiters ++ [Entry.mk s.asked send]).filter fun e => v.keeps e.ticket) =
          s.waiters.filter fun e => v.keeps e.ticket := by
        rw [List.filter_append, List.filter_cons, out]
        exact List.append_nil _
      rcases h with ⟨d, e, heard, left⟩
      have image := of_image (s := { s with
        asked := s.asked + 1
        waiters := s.waiters ++ [⟨s.asked, send⟩] }) d e heard left
      unfold State.image at image ⊢
      dsimp only at image
      rw [line, next] at image
      exact image

-- Who is not told to hear leaves, and does not wait for a place.
theorem depart (deaf : v.deaf (v.ticket k) = true) (absent : k ∉ s.inLine) (h : Shows v s t) :
    Shows v (s.withdraw k) t := by
  have waits : ¬(s.waiters.any fun e => e.ticket == k) = true := by
    intro waits
    rcases List.any_eq_true.mp waits with ⟨e, mem, same⟩
    exact absent (List.mem_map.mpr ⟨e, mem, beq_iff_eq.mp same⟩)
  unfold State.withdraw
  rw [if_neg waits]
  rcases h with ⟨d, e, heard, left⟩
  refine .of_image (s := { s with departed := k :: s.departed }) d e heard ?_
  intro m keeps hears
  rw [left m keeps hears, List.mem_cons]
  refine ⟨Or.inr, ?_⟩
  rintro (rfl | mem)
  · exact absurd (deaf.symm.trans hears) Bool.noConfusion
  · exact mem

end Shows

/-- One run of a queue has a caller more than another, and nobody else can tell. -/
structure Omitted (n : Nat) (s t : State σ) : Prop where
  /-- Without the caller, the one is the other. -/
  shows : Shows (.without n) s t
  /-- One caller more asked. -/
  asked : s.asked = t.asked + 1
  /-- The caller was told nothing, and does not wait. -/
  nowhere : Nowhere n s
  /-- Its submission was not sent. -/
  unsent : n ∉ s.sent

section Runs

variable {world : σ}

-- The metrics are the same.
theorem Omitted.metrics (omitted : Omitted n s t) : t.outside.metrics = s.outside.metrics := by
  rw [omitted.shows.outside]
  rfl

theorem Omitted.of_nowhere (reached : (State.fresh (.fresh world)).Leads q s)
    (gone : Nowhere n s) (shows : Shows (.without n) s t) : Omitted n s t := by
  have later := gone.asked
  have asked : t.asked = if s.asked ≤ n then s.asked else s.asked - 1 :=
    shows.asked.trans (Outlook.ticket_without n s.asked)
  rw [if_neg (Nat.not_le_of_lt later)] at asked
  refine ⟨shows, by omega, gone, fun sent => gone.accepted ?_⟩
  have taken := reached.ledger.taken n
  have some := List.count_pos_iff.mpr sent
  refine List.count_pos_iff.mp ?_
  omega

-- A queue that nobody used shows itself.
theorem Shows.fresh (v : Outlook) (world : σ) :
    Shows v (State.fresh (.fresh world)) (State.fresh (.fresh world)) :=
  .of_image (s := State.fresh (.fresh world)) [] [] rfl
    fun _ _ _ => ⟨fun mem => absurd mem List.not_mem_nil, fun mem => absurd mem List.not_mem_nil⟩

-- Until it asks, all is early.
theorem throughout_early (q : Setup σ) (world : σ) (s : State σ) :
    Throughout q (fun u => (State.fresh (.fresh world)).Leads q u ∧ u.asked ≤ s.asked)
      (State.fresh (.fresh world)) s :=
  fun _ there onward => ⟨there, onward.asked_le⟩

-- Who waits in the end without having been handed a place waited all the time.
theorem throughout_unserved (reached : (State.fresh (.fresh world)).Leads q s)
    (asked : n < s.asked) (waits : Unserved n t) :
    Throughout q (fun u => (State.fresh (.fresh world)).Leads q u ∧ n < u.asked ∧ Unserved n u)
      s t := by
  intro u there onward
  have here := reached.trans there
  have later := Nat.lt_of_lt_of_le asked there.asked_le
  exact ⟨here, later, waits.of_leads onward here.ledger (here.orderly (.fresh _)) later⟩

-- Who is nowhere stays there.
theorem throughout_nowhere (reached : (State.fresh (.fresh world)).Leads q s)
    (gone : Nowhere n s) :
    Throughout q (fun u => (State.fresh (.fresh world)).Leads q u ∧ Nowhere n u) s t :=
  fun _ there _ => ⟨reached.trans there, gone.of_leads there⟩

-- Who asks and waits in the end was put in line.
theorem Shows.ask_out {send : Send} {u : State σ}
    (reached : (State.fresh (.fresh world)).Leads q s)
    (way : (s.call q (.enqueue send)).Leads q u) (waits : Unserved s.asked u)
    (h : Shows (.without s.asked) s t) :
    Shows (.without s.asked) (s.call q (.enqueue send)) t ∧
      s.asked < (s.call q (.enqueue send)).asked := by
  have called : s.Leads q (s.call q (.enqueue send)) := .move (.call (.enqueue send)) s
  have ledger := (reached.trans (called.trans way)).ledger
  have held : s.held = true := by
    cases held : s.held with
    | true => rfl
    | false =>
      -- Nobody could have asked.
      have same := (called.trans way).asked_of_unheld held
      have asked := ledger.lt_asked (Or.inr waits.inLine)
      rw [same] at asked
      exact absurd asked (Nat.lt_irrefl s.asked)
  have asks : s.call q (.enqueue send) = s.enqueue q.places send := if_pos held
  have asked : s.asked < (s.call q (.enqueue send)).asked := by
    rw [asks, State.asked_enqueue]
    exact Nat.lt_succ_self s.asked
  have there := reached.trans called
  have line := (waits.of_leads way there.ledger (there.orderly (.fresh _)) asked).inLine
  refine ⟨?_, asked⟩
  rw [asks] at line ⊢
  exact h.lineUp_out (bne_self_eq_false s.asked) line reached.ledger

-- Who waits without having been handed a place leaves, and is nowhere.
theorem Shows.leave_out {v : Outlook} (reached : (State.fresh (.fresh world)).Leads q s)
    (waits : Unserved n s) (out : v.keeps n = false)
    (handed : ∀ e ∈ s.waiters.take s.granted, v.keeps e.ticket = true) (h : Shows v s t) :
    Shows v (s.withdraw n) t ∧ Nowhere n (s.withdraw n) :=
  ⟨h.withdraw_out out (reached.orderly (.fresh _)).placed handed,
    .of_withdraw reached.ledger waits.inLine⟩

-- Who was accepted leaves, and is not told to hear.
theorem Shows.leave_accepted (reached : (State.fresh (.fresh world)).Leads q s)
    (accepted : n ∈ s.accepted) (h : Shows (.hush n) s t) : Shows (.hush n) (s.withdraw n) t := by
  have absent : n ∉ s.inLine := fun line => (reached.ledger.of_inLine line).1 accepted
  refine h.depart ?_ absent
  rw [Outlook.ticket_hush]
  exact beq_self_eq_true n

variable (q world)

/-- Under any schedule, a caller who leaves while it waits for a place might as well not
    have asked. -/
theorem omitted_play (before during after : List Move) (send : Send)
    (waits : Unserved ((State.fresh (.fresh world)).play q before).asked
      ((State.fresh (.fresh world)).play q (before ++ .call (.enqueue send) :: during))) :
    let n := ((State.fresh (.fresh world)).play q before).asked
    Omitted n
      ((State.fresh (.fresh world)).play q
        (before ++ .call (.enqueue send) :: during ++ .call (.withdraw n) :: after))
      ((State.fresh (.fresh world)).play q
        ((before ++ during ++ after).filterMap (Outlook.without n).move)) := by
  intro n
  let s := (State.fresh (.fresh world)).play q before
  let u := s.call q (.enqueue send)
  let w := u.play q during
  have reached : (State.fresh (.fresh world)).Leads q s := ⟨before, rfl⟩
  have reached' : (State.fresh (.fresh world)).Leads q u :=
    reached.trans (.move (.call (.enqueue send)) s)
  have reached'' : (State.fresh (.fresh world)).Leads q w := reached'.trans ⟨during, rfl⟩
  rw [State.play_append] at waits
  change Unserved n w at waits
  -- It is not there yet, then it waits, then it is gone.
  have early := (Shows.fresh (.without n) world).play (apart_early q world n) before
    (throughout_early q world s)
  rcases early.ask_out reached ⟨during, rfl⟩ waits with ⟨lined, asked⟩
  have waited := lined.play (apart_unserved q world n) during
    (throughout_unserved reached' asked waits)
  rcases waited.leave_out reached'' waits (bne_self_eq_false n)
    (fun e mem => bne_iff_ne.mpr (waits.handed e mem)) with ⟨left, gone⟩
  have away := reached''.trans (.move (.call (.withdraw n)) w)
  have done := left.play (apart_nowhere q world n) after (throughout_nowhere away gone)
  rw [List.filterMap_append, List.filterMap_append, State.play_append, State.play_append,
    State.play_append, State.play_append]
  exact .of_nowhere (away.trans ⟨after, rfl⟩) (gone.of_leads ⟨after, rfl⟩) done

/-- A caller who leaves while it waits for a place might as well not have asked. -/
theorem omitted_run (before during after : List Command) (send : Send)
    (waits : ((State.fresh (.fresh world)).run q before).asked ∈
      ((State.fresh (.fresh world)).run q (before ++ .enqueue send :: during)).inLine) :
    let n := ((State.fresh (.fresh world)).run q before).asked
    Omitted n
      ((State.fresh (.fresh world)).run q
        (before ++ .enqueue send :: during ++ .withdraw n :: after))
      ((State.fresh (.fresh world)).run q
        ((before ++ during ++ after).filterMap (Outlook.without n).command)) := by
  intro n
  let s₀ := State.fresh (σ := σ) (.fresh world)
  let s := s₀.run q before
  let u := s.call q (.enqueue send)
  let w := (u.settle q).run q during
  let x := w.withdraw n
  have rest₀ : AtRest q s₀ := .fresh q world
  have rest : AtRest q s := rest₀.run before
  have reached : s₀.Leads q s := .run before rest₀.orderly
  have asks : s₀.Leads q u := reached.trans (.move (.call (.enqueue send)) s)
  have calls : Orderly u := asks.orderly rest₀.orderly
  have onward : u.Leads q w := .settle_run during calls
  have leaves : s₀.Leads q w := asks.trans onward
  have away : s₀.Leads q x := leaves.trans (.move (.call (.withdraw n)) w)
  have left : Orderly x := away.orderly rest₀.orderly
  have onward' : x.Leads q ((x.settle q).run q after) := .settle_run after left
  rw [State.run_append] at waits
  change n ∈ ((s.perform q (.enqueue send)).run q during).inLine at waits
  rw [rest.perform_eq rfl] at waits
  -- No place is on its way where nothing can happen any more.
  have unserved : Unserved n w := by
    have rest' : AtRest q w := (AtRest.of_settle calls).run during
    refine ⟨waits, fun e mem => ?_⟩
    rw [rest'.granted] at mem
    exact absurd mem List.not_mem_nil
  -- It is not there yet, then it waits, then it is gone.
  have early := (Shows.fresh (.without n) world).run (apart_early q world n) before rest₀ rest₀
    (throughout_early q world s)
  have rest₁ := rest₀.run (before.filterMap (Outlook.without n).command)
  rcases early.ask_out reached onward unserved with ⟨lined, asked⟩
  have waited := lined.settle_run (apart_unserved q world n) during calls rest₁
    (throughout_unserved asks asked unserved)
  have rest₂ := rest₁.run (during.filterMap (Outlook.without n).command)
  rcases waited.leave_out leaves unserved (bne_self_eq_false n)
    (fun e mem => bne_iff_ne.mpr (unserved.handed e mem)) with ⟨shows, gone⟩
  have done := shows.settle_run (apart_nowhere q world n) after left rest₂
    (throughout_nowhere away gone)
  rw [List.filterMap_append, List.filterMap_append, State.run_append, State.run_append,
    State.run_append, State.run_append]
  show Omitted n (((s.perform q (.enqueue send)).run q during).run q (.withdraw n :: after)) _
  rw [rest.perform_eq rfl]
  exact .of_nowhere (away.trans onward') (gone.of_leads onward') done

/-- Under any schedule, a caller who leaves after its submission was accepted might as
    well have stayed. -/
theorem unmoved_play (before after : List Move) (n : Nat)
    (accepted : n ∈ ((State.fresh (.fresh world)).play q before).accepted) :
    Unmoved n ((State.fresh (.fresh world)).play q (before ++ .call (.withdraw n) :: after))
      ((State.fresh (.fresh world)).play q (before ++ after)) := by
  let s := (State.fresh (.fresh world)).play q before
  have reached : (State.fresh (.fresh world)).Leads q s := ⟨before, rfl⟩
  have away := reached.trans (.move (.call (.withdraw n)) s)
  have same := (Shows.fresh (.hush n) world).play (apart_hush q world n) before fun _ there _ => there
  rw [Outlook.move_hush, List.filterMap_some] at same
  have done := (same.leave_accepted reached accepted).play (apart_hush q world n) after
    fun _ there _ => away.trans there
  rw [Outlook.move_hush, List.filterMap_some] at done
  rw [State.play_append, State.play_append]
  exact done.unmoved

/-- A caller who leaves after its submission was accepted might as well have stayed. -/
theorem unmoved_run (before after : List Command) (n : Nat)
    (accepted : n ∈ ((State.fresh (.fresh world)).run q before).accepted) :
    Unmoved n ((State.fresh (.fresh world)).run q (before ++ .withdraw n :: after))
      ((State.fresh (.fresh world)).run q (before ++ after)) := by
  let s := (State.fresh (.fresh world)).run q before
  have rest₀ : AtRest q (State.fresh (.fresh world)) := .fresh q world
  have rest : AtRest q s := rest₀.run before
  have reached : (State.fresh (.fresh world)).Leads q s := .run before rest₀.orderly
  have away := reached.trans (.move (.call (.withdraw n)) s)
  have same := (Shows.fresh (.hush n) world).run (apart_hush q world n) before rest₀ rest₀
    fun _ there _ => there
  rw [Outlook.command_hush, List.filterMap_some] at same
  have done := (same.leave_accepted reached accepted).settle_run (apart_hush q world n) after
    (away.orderly rest₀.orderly) rest fun _ there _ => away.trans there
  rw [Outlook.command_hush, List.filterMap_some] at done
  rw [State.run_append, State.run_append]
  exact done.unmoved

end Runs

/-- A caller who goes away disturbs nobody. In every run, if its submission was accepted,
    all that happens is what would have happened had it stayed, but for its hearing the
    answer; so its submission is sent if and when it would have been. If it waited for a
    place and was not handed one, all that happens to everybody else is what would have
    happened had it not asked, and its submission is not sent. Both hold of runs made of
    commands, where no place is on its way when a caller leaves, and under any other
    schedule. -/
theorem leaving_disturbs_nobody (q : Setup σ) (world : σ) :
    let s₀ := State.fresh (.fresh world)
    (∀ before after n, n ∈ (s₀.run q before).accepted →
      Unmoved n (s₀.run q (before ++ .withdraw n :: after)) (s₀.run q (before ++ after))) ∧
    (∀ before during after send,
      let n := (s₀.run q before).asked
      n ∈ (s₀.run q (before ++ .enqueue send :: during)).inLine →
      Omitted n (s₀.run q (before ++ .enqueue send :: during ++ .withdraw n :: after))
        (s₀.run q ((before ++ during ++ after).filterMap (Outlook.without n).command))) ∧
    (∀ before after n, n ∈ (s₀.play q before).accepted →
      Unmoved n (s₀.play q (before ++ .call (.withdraw n) :: after))
        (s₀.play q (before ++ after))) ∧
    (∀ before during after send,
      let n := (s₀.play q before).asked
      Unserved n (s₀.play q (before ++ .call (.enqueue send) :: during)) →
      Omitted n
        (s₀.play q (before ++ .call (.enqueue send) :: during ++ .call (.withdraw n) :: after))
        (s₀.play q ((before ++ during ++ after).filterMap (Outlook.without n).move))) :=
  ⟨unmoved_run q world, omitted_run q world, unmoved_play q world, omitted_play q world⟩

/-- Both places of a queue are handed to callers in line. The first of them stores its
    entry, and the second leaves: its place is free again, and the gauge shows it as taken,
    which it would not if the caller had not asked. And what was accepted is not sent if a
    shutdown comes first, whether its caller left or not. -/
theorem leaver_with_place_missed :
    let quick : Send := .direct (.after 0 (.failure .queueClosed))
    let slow : Send := .direct .never
    let asks := [Move.call .start, .call (.enqueue quick), .call (.enqueue slow),
      .call (.enqueue slow)]
    let stores := [Move.work, .work, .work, .store 0]
    let there := (State.fresh (.fresh ())).play Setup.narrow
      (asks ++ .call (.enqueue slow) :: stores)
    let left := (State.fresh (.fresh ())).play Setup.narrow
      (asks ++ .call (.enqueue slow) :: stores ++ [.call (.withdraw 3)])
    let absent := (State.fresh (.fresh ())).play Setup.narrow (asks ++ stores)
    let stopped := (State.fresh (.fresh ())).play Setup.narrow
      [.call (.enqueue slow), .call (.withdraw 0), .call .stop, .call .start, .work]
    (3 ∈ there.inLine ∧ left.outside.metrics.queueDepth = 2 ∧
      absent.outside.metrics.queueDepth = 1 ∧ ¬Omitted 3 left absent) ∧
    (stopped.accepted = [0] ∧ stopped.sent = []) := by
  intro quick slow asks stores there left absent stopped
  have shown : left.outside.metrics.queueDepth = 2 := by decide
  have other : absent.outside.metrics.queueDepth = 1 := by decide
  refine ⟨⟨by decide, shown, other, fun omitted => ?_⟩, by decide, by decide⟩
  rw [omitted.metrics] at other
  exact absurd (shown.symm.trans other) (by decide)

-- One submission is stored, and two callers wait for its place. The first of all
-- leaves, or the first in line.
theorem undisturbed_before_start :
    let s₀ : State Unit := .fresh (.fresh ())
    let ask := Command.enqueue (.direct .never)
    (0 ∈ (s₀.run .mute [ask]).accepted ∧
      Unmoved 0 (s₀.run .mute [ask, .withdraw 0, .start]) (s₀.run .mute [ask, .start])) ∧
    (1 ∈ (s₀.run .mute [ask, ask, ask]).inLine ∧
      Omitted 1 (s₀.run .mute [ask, ask, ask, .withdraw 1, .start])
        (s₀.run .mute [ask, ask, .start])) ∧
    (0 ∈ (s₀.play .mute [.call ask]).accepted ∧
      Unmoved 0 (s₀.play .mute [.call ask, .call (.withdraw 0), .call .start])
        (s₀.play .mute [.call ask, .call .start])) ∧
    (Unserved 1 (s₀.play .mute [.call ask, .call ask, .call ask]) ∧
      Omitted 1 (s₀.play .mute
          [.call ask, .call ask, .call ask, .call (.withdraw 1), .call .start])
        (s₀.play .mute [.call ask, .call ask, .call .start])) := by
  intro s₀ ask
  rcases leaving_disturbs_nobody Setup.mute () with ⟨stored, waiting, stored', waiting'⟩
  -- Nothing follows from a call before the worker is started.
  have quiet {u : State Unit} (stage : u.stage = .unstarted) (granted : u.granted = 0) :
      u.settle .mute = u := by
    refine iterate_eq_of_none ?_
    simp only [State.step?, State.work?, stage, granted]
    rfl
  have first : s₀.run .mute [ask] = s₀.play .mute [.call ask] := quiet rfl rfl
  have third : s₀.run .mute [ask, ask, ask] =
      s₀.play .mute [.call ask, .call ask, .call ask] := by
    have second : (s₀.play .mute [.call ask]).run .mute [ask] =
        s₀.play .mute [.call ask, .call ask] := quiet rfl rfl
    have last : (s₀.play .mute [.call ask, .call ask]).run .mute [ask] =
        s₀.play .mute [.call ask, .call ask, .call ask] := quiet rfl rfl
    rw [show [ask, ask, ask] = [ask] ++ [ask] ++ [ask] from rfl, State.run_append,
      State.run_append, first, second, last]
  have accepted : 0 ∈ (s₀.play .mute [.call ask]).accepted := List.mem_cons_self
  have inLine : 1 ∈ (s₀.play .mute [.call ask, .call ask, .call ask]).inLine :=
    List.mem_cons_self
  have unserved : Unserved 1 (s₀.play .mute [.call ask, .call ask, .call ask]) :=
    ⟨inLine, fun _ mem => absurd mem List.not_mem_nil⟩
  have number : (s₀.run .mute [ask]).asked = 1 := by
    rw [first]
    rfl
  refine ⟨⟨?_, ?_⟩, ⟨?_, ?_⟩, ⟨accepted, stored' [.call ask] [.call .start] 0 accepted⟩,
    unserved, waiting' [.call ask] [.call ask] [.call .start] (.direct .never) unserved⟩
  · rw [first]
    exact accepted
  · refine stored [ask] [.start] 0 ?_
    rw [first]
    exact accepted
  · rw [third]
    exact inLine
  · have done := waiting [ask] [ask] [.start] (.direct .never)
    rw [number] at done
    refine done ?_
    show 1 ∈ (s₀.run .mute [ask, ask, ask]).inLine
    rw [third]
    exact inLine

end Queue

end TxRelay
