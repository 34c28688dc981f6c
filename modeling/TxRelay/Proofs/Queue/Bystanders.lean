import TxRelay.Proofs.Queue.Outlook
import TxRelay.Proofs.Queue.Ways

/-!
# Bystanders

Whoever is left out of an outlook can be left out of a whole run. What the others do
is done to both queues, under their new numbers, and what those do who are left out
is done to one of them only. As long as nobody who is left out is handed a place or
turned away on the way, the two queues show each other throughout.

## Main definitions

* `Queue.Outlook.command`, `Queue.Outlook.move`: What is done to the other queue.
* `Queue.Apart`: What has to hold on the way.

## Theorems

* `Queue.Shows.enqueue`, `Queue.Shows.withdraw`, `Queue.Shows.stop`: What callers do
  is done in both.
* `Queue.Shows.withdraw_out`: Who is left out leaves only one of them.
* `Queue.Shows.call`, `Queue.Shows.move`: What is done keeps two queues alike.
* `Queue.Shows.play`, `Queue.Shows.run`: So do whole runs.
-/

namespace TxRelay

namespace Queue

variable {σ : Type}

namespace Outlook

/-- What is done to the other queue. Whoever is left out does nothing. -/
def command (v : Outlook) : Command → Option Command
  | .withdraw n => if v.keeps n then some (.withdraw (v.ticket n)) else none
  | c => some c

/-- A move of the other queue. -/
def move (v : Outlook) : Move → Option Move
  | .call c => (v.command c).map .call
  | m => some m

end Outlook

-- Whether the worker went away does not depend on numbers.
theorem Stage.ending?_rename (f : Nat → Nat) (stage : Stage) :
    (stage.rename f).ending? = stage.ending? := by
  cases stage <;> rfl

-- Among those who are not left out, one leaves the line.
theorem filter_rename {v : Outlook} {k : Nat} (keeps : v.keeps k = true) (line : List Entry) :
    ((line.filter fun e => v.keeps e.ticket).map (Entry.rename v.ticket)).filter
        (fun e => e.ticket != v.ticket k) =
      ((line.filter fun e => e.ticket != k).filter fun e => v.keeps e.ticket).map
        (Entry.rename v.ticket) := by
  have other (e : Entry) (kept : v.keeps e.ticket = true) :
      (v.ticket e.ticket != v.ticket k) = (e.ticket != k) := by
    rw [Bool.eq_iff_iff, bne_iff_ne, bne_iff_ne]
    exact not_congr ⟨v.ticket_inj kept keeps, congrArg v.ticket⟩
  rw [List.filter_map, List.filter_filter, List.filter_filter]
  refine congrArg (List.map _) (List.filter_congr fun e _ => ?_)
  cases kept : v.keeps e.ticket with
  | false => rw [Bool.and_false, Bool.false_and]
  | true =>
    rw [Bool.and_true, Bool.true_and]
    exact other e kept

-- One who is left out leaves the line.
theorem filter_keeps_filter {v : Outlook} {k : Nat} (out : v.keeps k = false)
    (line : List Entry) :
    ((line.filter fun e => e.ticket != k).filter fun e => v.keeps e.ticket) =
      line.filter fun e => v.keeps e.ticket := by
  rw [List.filter_filter]
  refine List.filter_congr fun e _ => ?_
  cases kept : v.keeps e.ticket with
  | false => rw [Bool.false_and]
  | true =>
    rw [Bool.true_and, bne_iff_ne]
    intro same
    rw [same, out] at kept
    exact Bool.noConfusion kept

-- Whoever asks is given a number.
theorem State.asked_enqueue (places : Nat) (send : Send) (s : State σ) :
    (s.enqueue places send).asked = s.asked + 1 := by
  unfold enqueue
  split
  · rfl
  · split <;> rfl

namespace Shows

variable {v : Outlook} {q : Setup σ} {s t : State σ}

section Callers

theorem start (h : Shows v s t) : Shows v s.start t.start := by
  have same := h.stage
  cases stage : s.stage with
  | unstarted =>
    have idle := h.withStage .idle
    rw [stage] at same
    unfold State.start
    rw [stage, same]
    exact idle
  | _ =>
    rw [stage] at same
    unfold State.start
    rw [stage, same]
    exact h

-- Whoever asks gets the next number in both.
theorem ask (keeps : v.keeps s.asked = true) (h : Shows v s t) :
    Shows v { s with asked := s.asked + 1 } { t with asked := t.asked + 1 } := by
  have next := v.ticket_succ s.asked
  rw [if_pos keeps] at next
  rcases h with ⟨d, e, heard, left⟩
  have image := of_image (s := { s with asked := s.asked + 1 }) d e heard left
  unfold State.image at image ⊢
  rw [next] at image
  exact image

-- Whoever waits for a place is last in line in both.
theorem lineUp (e : Entry) (keeps : v.keeps e.ticket = true) (h : Shows v s t) :
    Shows v { s with waiters := s.waiters ++ [e] }
      { t with waiters := t.waiters ++ [e.rename v.ticket] } := by
  have last : [e].filter (fun e => v.keeps e.ticket) = [e] := by
    rw [List.filter_cons, if_pos keeps, List.filter_nil]
  rcases h with ⟨d, x, heard, left⟩
  have image := of_image (s := { s with waiters := s.waiters ++ [e] }) d x heard left
  unfold State.image at image ⊢
  rw [List.filter_append, last, List.map_append] at image
  exact image

/-- A caller asks. -/
theorem enqueue (places : Nat) (send : Send) (keeps : v.keeps s.asked = true)
    (h : Shows v s t) : Shows v (s.enqueue places send) (t.enqueue places send) := by
  have asked := h.ask keeps
  have ended : t.stage.ending? = s.stage.ending? := by
    rw [h.stage, Stage.ending?_rename]
  have depth : t.depth = s.depth := by
    unfold State.depth
    rw [h.buffer, h.granted, List.length_map]
  have number := h.asked
  have same : (t.shutdown || t.stage.ending?.isSome) = (s.shutdown || s.stage.ending?.isSome) := by
    rw [h.shutdown, ended]
  unfold State.enqueue
  dsimp only
  by_cases shut : (s.shutdown || s.stage.ending?.isSome) = true
  · have turned := asked.reject s.asked
    rw [← number] at turned
    rw [if_pos shut, if_pos (same.trans shut)]
    exact turned
  · have opened : ¬(t.shutdown || t.stage.ending?.isSome) = true := by
      rw [same]
      exact shut
    rw [if_neg shut, if_neg opened]
    by_cases room : s.depth < places
    · have stored := asked.store ⟨s.asked, send⟩
      unfold Entry.rename at stored
      rw [← number] at stored
      rw [if_pos room, if_pos (depth ▸ room)]
      exact stored
    · have waits := asked.lineUp ⟨s.asked, send⟩ keeps
      unfold Entry.rename at waits
      rw [← number] at waits
      rw [if_neg room, if_neg (depth ▸ room)]
      exact waits

-- Who is in line in both.
theorem any_waiters {k : Nat} (keeps : v.keeps k = true) (h : Shows v s t) :
    (t.waiters.any fun e => e.ticket == v.ticket k) = s.waiters.any fun e => e.ticket == k := by
  rw [h.waiters, List.any_map, Bool.eq_iff_iff, List.any_eq_true, List.any_eq_true]
  refine ⟨?_, ?_⟩
  · rintro ⟨e, mem, same⟩
    rcases List.mem_filter.mp mem with ⟨mem, kept⟩
    exact ⟨e, mem, beq_iff_eq.mpr (v.ticket_inj kept keeps (beq_iff_eq.mp same))⟩
  · rintro ⟨e, mem, same⟩
    have ticket : e.ticket = k := beq_iff_eq.mp same
    refine ⟨e, List.mem_filter.mpr ⟨mem, ?_⟩, ?_⟩
    · rw [ticket]
      exact keeps
    · show (v.ticket e.ticket == v.ticket k) = true
      rw [ticket]
      exact beq_iff_eq.mpr rfl

/-- A caller leaves who is not left out. A place it was handed goes to the same caller
    in both. -/
theorem withdraw {k : Nat} (keeps : v.keeps k = true)
    (handed : ∀ e ∈ (s.withdraw k).waiters.take (s.withdraw k).granted,
      v.keeps e.ticket = true) (h : Shows v s t) :
    Shows v (s.withdraw k) (t.withdraw (v.ticket k)) := by
  have same := h.any_waiters keeps
  unfold State.withdraw at handed ⊢
  rw [same]
  by_cases waits : (s.waiters.any fun e => e.ticket == k) = true
  · rw [if_pos waits] at handed
    rw [if_pos waits, if_pos waits]
    dsimp only at handed ⊢
    have line := filter_rename keeps s.waiters
    have places := min_keeps handed
    rw [← List.length_map (f := Entry.rename v.ticket), ← line] at places
    rw [h.waiters, h.granted, places, line]
    rcases h with ⟨d, e, heard, left⟩
    exact .of_image (s := { s with waiters := _, granted := _ }) d e heard left
  · rw [if_neg waits, if_neg waits]
    rcases h with ⟨d, e, heard, left⟩
    refine .of_image (s := { s with departed := k :: s.departed }) (v.ticket k :: d) e heard ?_
    intro m kept hears
    rw [List.mem_cons, List.mem_cons]
    exact or_congr ⟨v.ticket_inj kept keeps, congrArg v.ticket⟩ (left m kept hears)

/-- A caller leaves who is left out, and was not handed a place. -/
theorem withdraw_out {k : Nat} (out : v.keeps k = false) (placed : s.granted ≤ s.waiters.length)
    (handed : ∀ e ∈ s.waiters.take s.granted, v.keeps e.ticket = true) (h : Shows v s t) :
    Shows v (s.withdraw k) t := by
  unfold State.withdraw
  by_cases waits : (s.waiters.any fun e => e.ticket == k) = true
  · rw [if_pos waits]
    dsimp only
    have line := filter_keeps_filter out s.waiters
    -- Enough remain in line for the places that were handed out.
    have places : min s.granted (s.waiters.filter fun e => e.ticket != k).length = s.granted := by
      have within : ∀ e ∈ s.waiters.take (min s.granted s.waiters.length),
          v.keeps e.ticket = true := by
        rw [Nat.min_eq_left placed]
        exact handed
      have among := min_keeps within
      have fewer := List.length_filter_le (fun e : Entry => v.keeps e.ticket)
        (s.waiters.filter fun e => e.ticket != k)
      rw [line] at fewer
      omega
    rw [places]
    rcases h with ⟨d, e, heard, left⟩
    have image := of_image
      (s := { s with waiters := s.waiters.filter fun e => e.ticket != k }) d e heard left
    unfold State.image at image ⊢
    dsimp only at image
    rw [line] at image
    exact image
  · rw [if_neg waits]
    rcases h with ⟨d, e, heard, left⟩
    refine .of_image (s := { s with departed := k :: s.departed }) d e heard ?_
    intro m kept hears
    rw [left m kept hears, List.mem_cons]
    refine ⟨Or.inr, ?_⟩
    rintro (rfl | mem)
    · rw [out] at kept
      exact Bool.noConfusion kept
    · exact mem

/-- A shutdown is asked for. -/
theorem stop (fair : Fair v s s.stop.2) (h : Shows v s t) : Shows v s.stop.2 t.stop.2 := by
  unfold State.stop at fair ⊢
  rw [h.lifecycle]
  by_cases running : s.lifecycle = .running
  · rw [if_pos running] at fair
    rw [if_pos running, if_pos running]
    rcases s.close_shape with ⟨m, shape⟩
    have all := fair.line (by rw [shape]; rfl)
    refine releaseWaiters all ?_
    rcases h with ⟨d, e, heard, left⟩
    exact .of_image (s := { s with lifecycle := .stopping, shutdown := true }) d e heard left
  · rw [if_neg running, if_neg running]
    exact h

theorem dropHandle (h : Shows v s t) : Shows v s.dropHandle t.dropHandle := by
  rcases h with ⟨d, e, heard, left⟩
  exact .of_image (s := s.dropHandle) d e heard left

/-- The worker is lost. -/
theorem abort (hand : ∀ k ∈ s.inHand, v.keeps k = true) (fair : Fair v s (s.abort s.loss))
    (h : Shows v s t) : Shows v (s.abort s.loss) (t.abort t.loss) := by
  have same := h.stage
  have lost : t.loss = s.loss := by
    unfold State.loss
    rw [same]
    cases s.stage <;> rfl
  rw [lost]
  unfold State.abort at fair ⊢
  cases stage : s.stage with
  | ended how =>
    rw [stage] at same
    rw [same]
    exact h
  | _ =>
    rw [stage] at same fair
    rw [same]
    refine h.leave s.loss hand (fair.line ?_)
    rcases s.leave_shape s.loss with ⟨m, shape⟩
    rw [shape]
    rfl

/-- Time passes up to the worker's next step, or no time passes. -/
theorem pass (limit : Nat) (keeping : Keeping v s) (p : Spaced q s)
    (fair : Fair v s (s.pass q limit)) (h : Shows v s t) :
    Shows v (s.pass q limit) (t.pass q limit) := by
  have soon : Alike v s (s.work? q s.now) (t.work? q s.now) := h.work? keeping p
  have later : Alike v s (s.work? q limit) (t.work? q limit) := h.work? keeping p
  unfold State.pass at fair ⊢
  rw [h.now, h.granted]
  generalize s.work? q s.now = next, t.work? q s.now = next' at soon fair
  generalize s.work? q limit = far, t.work? q limit = far' at later fair
  cases soon with
  | step => exact h
  | rest =>
    by_cases busy : ((none : Option (State σ)).isSome || decide (0 < s.granted)) = true
    · rw [if_pos busy, if_pos busy]
      exact h
    · rw [if_neg busy] at fair
      rw [if_neg busy, if_neg busy]
      cases later with
      | rest => exact h.moveTo limit
      | step shows => exact shows fair

/-- What is done from outside is done in both, but for those who are left out. -/
theorem call (c : Command) (keeping : Keeping v s) (p : Spaced q s) (o : Orderly s)
    (fair : Fair v s (s.call q c)) (h : Shows v s t) :
    Shows v (s.call q c) (t.play q ((v.command c).map Move.call).toList) := by
  -- Only who holds the queue asks for anything.
  have holding {u w : State σ} (done : s.held = true → Shows v u w) :
      Shows v (if s.held then u else s) (if t.held then w else t) := by
    rw [h.held]
    by_cases held : s.held = true
    · rw [if_pos held, if_pos held]
      exact done held
    · rw [if_neg held, if_neg held]
      exact h
  cases c with
  | start => exact h.start
  | enqueue send =>
    refine holding fun held => h.enqueue q.places send (fair.asks ?_)
    unfold State.call
    dsimp only
    rw [if_pos held, State.asked_enqueue]
    exact Nat.lt_succ_self s.asked
  | advance span =>
    have passed := h.pass (s.now + span) keeping p fair
    show Shows v (s.pass q (s.now + span)) (t.pass q (t.now + span))
    rw [h.now]
    exact passed
  | stop =>
    refine holding fun held => h.stop ?_
    unfold State.call at fair
    dsimp only at fair
    rw [if_pos held] at fair
    exact fair
  | lose => exact h.abort keeping.hand fair
  | dropHandle => exact h.dropHandle
  | withdraw n =>
    unfold Outlook.command
    dsimp only
    cases keeps : v.keeps n with
    | true => exact h.withdraw keeps fair.handed
    | false => exact h.withdraw_out keeps o.placed keeping.handed

/-- A move is made in both, but for those who are left out. -/
theorem move (m : Move) (keeping : Keeping v s) (p : Spaced q s) (o : Orderly s)
    (fair : Fair v s (s.move q m)) (h : Shows v s t) :
    Shows v (s.move q m) (t.play q (v.move m).toList) := by
  cases m with
  | call c => exact h.call c keeping p o fair
  | work =>
    have next : Alike v s (s.work? q s.now) (t.work? q s.now) := h.work? keeping p
    show Shows v ((s.work? q s.now).getD s) ((t.work? q t.now).getD t)
    change Fair v s ((s.work? q s.now).getD s) at fair
    rw [h.now]
    generalize s.work? q s.now = next, t.work? q s.now = next' at next fair
    cases next with
    | rest => exact h
    | step shows => exact shows fair
  | store before => exact h.storeAt before keeping.handed

end Callers

end Shows

-- What is done to the other queue comes one after another.
theorem filterMap_cons_toList {α β : Type} (f : α → Option β) (x : α) (xs : List α) :
    (x :: xs).filterMap f = (f x).toList ++ xs.filterMap f := by
  rw [List.filterMap_cons]
  cases f x <;> rfl

/-- What has to hold on the way, so that nobody who is left out is in the way. -/
structure Apart (q : Setup σ) (v : Outlook) (P : State σ → Prop) : Prop where
  /-- The queue is in order. -/
  orderly : ∀ s, P s → Orderly s
  /-- Its places are accounted for. -/
  spaced : ∀ s, P s → Spaced q s
  /-- Nobody who is left out has a place or a submission in hand. -/
  keeping : ∀ s, P s → Keeping v s
  /-- Nobody who is left out is served or turned away. -/
  fair : ∀ s t, P s → P t → Fair v s t

-- As much time passes in the other queue.
theorem Outlook.span?_command (v : Outlook) {c c' : Command} (same : v.command c = some c') :
    c'.span? = c.span? := by
  cases c with
  | withdraw n =>
    unfold command at same
    dsimp only at same
    by_cases keeps : v.keeps n = true
    · rw [if_pos keeps] at same
      rw [← Option.some.inj same]
      rfl
    · rw [if_neg keeps] at same
      exact absurd same.symm (Option.some_ne_none c')
  | _ =>
    rw [← Option.some.inj same]

namespace Shows

variable {q : Setup σ} {v : Outlook} {P : State σ → Prop} {s t : State σ}

/-- A run made of moves is the same in both, but for those who are left out. -/
theorem play (apart : Apart q v P) (moves : List Move)
    (all : Throughout q P s (s.play q moves)) (h : Shows v s t) :
    Shows v (s.play q moves) (t.play q (moves.filterMap v.move)) := by
  induction moves generalizing s t with
  | nil => exact h
  | cons m rest ih =>
    have ahead : (s.move q m).Leads q (s.play q (m :: rest)) := ⟨rest, rfl⟩
    have here := all.first ⟨m :: rest, rfl⟩
    have there := all (s.move q m) (.move m s) ahead
    have made := h.move m (apart.keeping s here) (apart.spaced s here) (apart.orderly s here)
      (apart.fair s _ here there)
    have others := ih (all.part (.move m s) (.refl _)) made
    rw [filterMap_cons_toList, State.play_append]
    exact others

-- A run on the clock is the same in both.
theorem runTo {limit : Nat} (apart : Apart q v P) (soon : s.now ≤ limit) (o : Orderly s)
    (all : Throughout q P s (s.runTo q limit)) (h : Shows v s t) :
    Shows v (s.runTo q limit) (t.runTo q limit) := by
  -- What the next step leads to, if there is one, is on the way to the same end.
  let R (u w : State σ) : Prop :=
    Shows v u w ∧ u.now ≤ limit ∧ Orderly u ∧ Throughout q P u (u.runTo q limit)
  have way {u : State σ} (early : u.now ≤ limit) (orderly : Orderly u) :
      u.Leads q (u.runTo q limit) := (State.runTo_eq_play orderly early).1
  have next {u w : State σ} (r : R u w) : P u ∧ Alike v u (u.step? q limit) (w.step? q limit) := by
    rcases r with ⟨shows, early, orderly, onward⟩
    have here := onward.first (way early orderly)
    exact ⟨here, shows.step? (apart.keeping u here) (apart.spaced u here) orderly⟩
  have alike : R (s.runTo q limit) (t.runTo q limit) := by
    refine iterate_alike (R := R) ?_ ?_ s t ⟨h, soon, o, all⟩
    · intro u w r none
      have same := (next r).2
      rw [none] at same
      generalize w.step? q limit = after at same
      cases same
      rfl
    · intro u u' w r step
      rcases next r with ⟨here, same⟩
      rcases r with ⟨shows, early, orderly, onward⟩
      have leads : u.Leads q u' := State.step?_eq_play orderly early step
      have ends : u.runTo q limit = u'.runTo q limit := iterate_eq_of_some step
      have early' := State.now_of_step? early step
      have orderly' := leads.orderly orderly
      rw [ends] at onward
      have there := onward u' leads (way early' orderly')
      rw [step] at same
      generalize w.step? q limit = after at same
      cases same with
      | @step _ w' shows' =>
        exact ⟨w', rfl, shows' (apart.fair u u' here there), early', orderly',
          onward.part leads (.refl _)⟩
  exact alike.1

-- Everything that can happen happens in both.
theorem settle (apart : Apart q v P) (o : Orderly s) (all : Throughout q P s (s.settle q))
    (h : Shows v s t) : Shows v (s.settle q) (t.settle q) := by
  have done := h.runTo apart (Nat.le_refl s.now) o all
  unfold State.settle
  rw [h.now]
  exact done

-- Time passes in both.
theorem advanceTo {limit : Nat} (apart : Apart q v P) (soon : s.now ≤ limit) (o : Orderly s)
    (all : Throughout q P s (s.advanceTo q limit)) (h : Shows v s t) :
    Shows v (s.advanceTo q limit) (t.advanceTo q limit) :=
  (h.runTo apart soon o (all.part (.refl s) (.advance o soon))).moveTo limit

/-- A command is obeyed in both, but for those who are left out. -/
theorem perform (apart : Apart q v P) (c : Command) (rest : AtRest q s) (rest' : AtRest q t)
    (all : Throughout q P s (s.perform q c)) (h : Shows v s t) :
    Shows v (s.perform q c) (t.run q (v.command c).toList) := by
  cases advances : c.span? with
  | some span =>
    rw [Command.eq_advance advances] at all ⊢
    have done := h.advanceTo apart (Nat.le_add_right s.now span) rest.orderly all
    show Shows v (s.advanceTo q (s.now + span)) (t.advanceTo q (t.now + span))
    rw [h.now]
    exact done
  | none =>
    rw [rest.perform_eq advances] at all ⊢
    have orderly : Orderly (s.call q c) := State.orderly_call c rest.orderly
    have called : s.Leads q (s.call q c) := .move (.call c) s
    have settled : (s.call q c).Leads q ((s.call q c).settle q) := .settle orderly
    have here := all.first (called.trans settled)
    have there := all (s.call q c) called settled
    have made := h.call c (apart.keeping s here) (apart.spaced s here) rest.orderly
      (apart.fair s _ here there)
    have done := made.settle apart orderly (all.part called (.refl _))
    cases other : v.command c with
    | none =>
      rw [other] at done
      change Shows v _ (t.settle q) at done
      rw [rest'.settle] at done
      exact done
    | some c' =>
      have still : c'.span? = none := (v.span?_command other).trans advances
      rw [other] at done
      show Shows v _ (t.perform q c')
      rw [rest'.perform_eq still]
      exact done

/-- A run made of commands is the same in both, but for those who are left out. -/
theorem run (apart : Apart q v P) (commands : List Command) (rest : AtRest q s)
    (rest' : AtRest q t) (all : Throughout q P s (s.run q commands)) (h : Shows v s t) :
    Shows v (s.run q commands) (t.run q (commands.filterMap v.command)) := by
  induction commands generalizing s t with
  | nil => exact h
  | cons c others ih =>
    have first : s.Leads q (s.perform q c) := .perform c rest.orderly
    have next := rest.perform c
    have behind : (s.perform q c).Leads q (s.run q (c :: others)) := .run others next.orderly
    have made := h.perform apart c rest rest' (all.part (.refl s) behind)
    rw [filterMap_cons_toList, State.run_append]
    exact ih next (rest'.run _) (all.part first (.refl _)) made

/-- A run that begins in the middle of an instant is the same in both, also if in one of
    them that instant is over. -/
theorem settle_run (apart : Apart q v P) (commands : List Command) (o : Orderly s)
    (rest' : AtRest q t) (all : Throughout q P s ((s.settle q).run q commands))
    (h : Shows v s t) :
    Shows v ((s.settle q).run q commands) (t.run q (commands.filterMap v.command)) := by
  have first : s.Leads q (s.settle q) := .settle o
  have rest : AtRest q (s.settle q) := .of_settle o
  have onward : (s.settle q).Leads q ((s.settle q).run q commands) := .run commands rest.orderly
  have settled := h.settle apart o (all.part (.refl s) onward)
  rw [rest'.settle] at settled
  exact settled.run apart commands rest rest' (all.part first (.refl _))

end Shows

end Queue

end TxRelay
