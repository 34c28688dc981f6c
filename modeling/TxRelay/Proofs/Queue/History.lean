import TxRelay.Proofs.Queue.Punctual

/-!
# What a History Says

A history is one list in which everything is written down. Here it is taken
apart: what callers were told, what was done, and what was learned about one
submission. The first two are exactly what the state remembers, so nothing is
left out of a history and nothing is made up. What was learned is attributed to
submissions by the history alone; every lookup that is made is attributed to one
submission, at the same instant and with the same transaction.

## Main definitions

* `Queue.said`, `Queue.done`: What callers were told and what was done.
* `Queue.learned`: What was learned about a submission.
* `Queue.lookups`, `Queue.inquiries`: The lookups made, and the ones attributed
  to submissions.

## Theorems

* `Queue.Step.said_eq`, `Queue.Step.done_eq`: What a step adds.
* `Queue.Step.learned_of_ne`: What a step learns is about what is in flight.
* `Queue.Step.closed_iff`: Whether a step closes the queue.
* `Queue.Step.lookups_eq`: Every lookup of a step is attributed.
-/

namespace TxRelay

namespace Queue

namespace Happening

/-- What a caller was told. -/
def told? : Happening → Option Event
  | .told e => some e
  | _ => none

/-- What was done. -/
def did? : Happening → Option Act
  | .did a => some a
  | _ => none

/-- The submission about which something was learned. -/
def about? : Happening → Option Nat
  | .returned n _ => some n
  | .asked n _ => some n
  | .heard n _ _ _ => some n
  | _ => none

/-- Whether the life of the queue or of its worker changed. -/
def isMark : Happening → Bool
  | .started => true
  | .closed => true
  | .left _ => true
  | _ => false

/-- The transaction that was looked up, by the attribution. -/
def inquiry? : Happening → Option (ChainId × Hash)
  | .asked _ tx => some (tx.chain, tx.hash)
  | _ => none

end Happening

end Queue

/-- The transaction that was looked up. -/
def Act.lookup? : Act → Option (ChainId × Hash)
  | .lookup chain hash => some (chain, hash)
  | _ => none

namespace Queue

/-- What callers were told in a history. -/
def said (h : List (Nat × Happening)) : List (Nat × Event) :=
  h.filterMap fun x => x.2.told?.map fun e => (x.1, e)

/-- What was done in a history. -/
def done (h : List (Nat × Happening)) : List (Nat × Act) :=
  h.filterMap fun x => x.2.did?.map fun a => (x.1, a)

/-- What a history learned about a submission. -/
def learned (n : Nat) (h : List (Nat × Happening)) : List (Nat × Happening) :=
  h.filter fun x => x.2.about? == some n

/-- The changes in the life of the queue and of its worker. -/
def marks (h : List (Nat × Happening)) : List (Nat × Happening) :=
  h.filter fun x => x.2.isMark

/-- The lookups among acts. -/
def lookups (acts : List (Nat × Act)) : List (Nat × ChainId × Hash) :=
  acts.filterMap fun x => x.2.lookup?.map fun l => (x.1, l)

/-- The lookups that a history attributes to submissions. -/
def inquiries (h : List (Nat × Happening)) : List (Nat × ChainId × Hash) :=
  h.filterMap fun x => x.2.inquiry?.map fun l => (x.1, l)

-- What callers were told is what the history says.
theorem mem_said {h : List (Nat × Happening)} {i : Nat} {e : Event} :
    (i, e) ∈ said h ↔ (i, Happening.told e) ∈ h := by
  constructor
  · intro mem
    rcases List.mem_filterMap.mp mem with ⟨⟨j, x⟩, source, told⟩
    cases x with
    | told f =>
      have same : (j, f) = (i, e) := Option.some.inj told
      rcases Prod.mk.inj same with ⟨rfl, rfl⟩
      exact source
    | _ => exact absurd told (by simp only [Happening.told?, Option.map_none, reduceCtorEq,
        not_false_eq_true])
  · exact fun mem => List.mem_filterMap.mpr ⟨_, mem, rfl⟩

-- What was done is what the history says.
theorem mem_done {h : List (Nat × Happening)} {i : Nat} {a : Act} :
    (i, a) ∈ done h ↔ (i, Happening.did a) ∈ h := by
  constructor
  · intro mem
    rcases List.mem_filterMap.mp mem with ⟨⟨j, x⟩, source, did⟩
    cases x with
    | did b =>
      have same : (j, b) = (i, a) := Option.some.inj did
      rcases Prod.mk.inj same with ⟨rfl, rfl⟩
      exact source
    | _ => exact absurd did (by simp only [Happening.did?, Option.map_none, reduceCtorEq,
        not_false_eq_true])
  · exact fun mem => List.mem_filterMap.mpr ⟨_, mem, rfl⟩

-- What was learned about a submission is what the history says.
theorem mem_learned {h : List (Nat × Happening)} {n : Nat} {x : Nat × Happening} :
    x ∈ learned n h ↔ x ∈ h ∧ x.2.about? = some n := by
  unfold learned
  rw [List.mem_filter, beq_iff_eq]

-- Of a submission about which nothing was learned nothing is known.
theorem not_mem_of_learned {h : List (Nat × Happening)} {n : Nat} {x : Nat × Happening}
    (unknown : learned n h = []) (about : x.2.about? = some n) : x ∉ h := by
  intro mem
  have known := mem_learned.mpr ⟨mem, about⟩
  rw [unknown] at known
  exact absurd known List.not_mem_nil

section Parts

variable (n : Nat) (g h : List (Nat × Happening)) (es : List (Nat × Event))
  (acts : List (Nat × Act))

@[simp]
theorem said_append : said (g ++ h) = said g ++ said h := List.filterMap_append

@[simp]
theorem done_append : done (g ++ h) = done g ++ done h := List.filterMap_append

@[simp]
theorem learned_append : learned n (g ++ h) = learned n g ++ learned n h := List.filter_append ..

@[simp]
theorem marks_append : marks (g ++ h) = marks g ++ marks h := List.filter_append ..

@[simp]
theorem inquiries_append : inquiries (g ++ h) = inquiries g ++ inquiries h :=
  List.filterMap_append

@[simp]
theorem lookups_append (more : List (Nat × Act)) :
    lookups (acts ++ more) = lookups acts ++ lookups more := List.filterMap_append

@[simp]
theorem said_toldAll : said (State.toldAll es) = es := by
  unfold said State.toldAll
  rw [List.filterMap_map]
  exact List.filterMap_some

@[simp]
theorem done_toldAll : done (State.toldAll es) = [] := by
  unfold done State.toldAll
  rw [List.filterMap_map, List.filterMap_eq_nil_iff]
  exact fun _ _ => rfl

@[simp]
theorem learned_toldAll : learned n (State.toldAll es) = [] := by
  unfold learned State.toldAll
  rw [List.filter_eq_nil_iff]
  intro x mem
  rcases List.mem_map.mp mem with ⟨e, -, rfl⟩
  exact Bool.noConfusion

@[simp]
theorem marks_toldAll : marks (State.toldAll es) = [] := by
  unfold marks State.toldAll
  rw [List.filter_eq_nil_iff]
  intro x mem
  rcases List.mem_map.mp mem with ⟨e, -, rfl⟩
  exact Bool.noConfusion

@[simp]
theorem inquiries_toldAll : inquiries (State.toldAll es) = [] := by
  unfold inquiries State.toldAll
  rw [List.filterMap_map, List.filterMap_eq_nil_iff]
  exact fun _ _ => rfl

@[simp]
theorem said_didAll : said (State.didAll acts) = [] := by
  unfold said State.didAll
  rw [List.filterMap_map, List.filterMap_eq_nil_iff]
  exact fun _ _ => rfl

@[simp]
theorem done_didAll : done (State.didAll acts) = acts := by
  unfold done State.didAll
  rw [List.filterMap_map]
  exact List.filterMap_some

@[simp]
theorem learned_didAll : learned n (State.didAll acts) = [] := by
  unfold learned State.didAll
  rw [List.filter_eq_nil_iff]
  intro x mem
  rcases List.mem_map.mp mem with ⟨a, -, rfl⟩
  exact Bool.noConfusion

@[simp]
theorem marks_didAll : marks (State.didAll acts) = [] := by
  unfold marks State.didAll
  rw [List.filter_eq_nil_iff]
  intro x mem
  rcases List.mem_map.mp mem with ⟨a, -, rfl⟩
  exact Bool.noConfusion

@[simp]
theorem inquiries_didAll : inquiries (State.didAll acts) = [] := by
  unfold inquiries State.didAll
  rw [List.filterMap_map, List.filterMap_eq_nil_iff]
  exact fun _ _ => rfl

end Parts

variable {σ : Type} {q : Setup σ} {s t : State σ} {h : List (Nat × Happening)}

namespace Flight

variable {n i : Nat} {d : Option Happening} {o : Surroundings σ} {fate : Fate}

-- A step in flight learns something about the submission in flight, or
-- nothing.
theorem about (flight : Flight q s n i d o fate) : ∀ x ∈ d, x.about? = some n := by
  cases flight with
  | retries | abandoned | gaveUp => exact fun _ mem => absurd mem (by simp only [Option.mem_def,
      reduceCtorEq, not_false_eq_true])
  | failed | sendCrashed | sentLate | sent | unpaced | asks | pending | settled | lookupCrashed =>
    intro x mem
    rw [← Option.mem_some.mp mem]
    rfl

-- What a step in flight learns is nothing that was told or done.
theorem told?_did? (flight : Flight q s n i d o fate) :
    ∀ x ∈ d, x.told? = none ∧ x.did? = none := by
  intro x mem
  have about := flight.about x mem
  cases x <;> first
    | exact ⟨rfl, rfl⟩
    | exact absurd about (by simp only [Happening.about?, reduceCtorEq, not_false_eq_true])

-- What a step in flight learns, among what was told.
theorem said_deed (flight : Flight q s n i d o fate) (j : Nat) :
    said (d.toList.map fun x => (j, x)) = [] := by
  cases d with
  | none => rfl
  | some x =>
    unfold said
    simp only [Option.toList_some, List.map_cons, List.map_nil, List.filterMap_cons,
      (flight.told?_did? x rfl).1, Option.map_none, List.filterMap_nil]

-- What a step in flight learns, among what was done.
theorem done_deed (flight : Flight q s n i d o fate) (j : Nat) :
    done (d.toList.map fun x => (j, x)) = [] := by
  cases d with
  | none => rfl
  | some x =>
    unfold done
    simp only [Option.toList_some, List.map_cons, List.map_nil, List.filterMap_cons,
      (flight.told?_did? x rfl).2, Option.map_none, List.filterMap_nil]

-- What a step in flight learns, among the changes.
theorem marks_deed (flight : Flight q s n i d o fate) (j : Nat) :
    marks (d.toList.map fun x => (j, x)) = [] := by
  unfold marks
  rw [List.filter_eq_nil_iff]
  intro x mem
  rcases List.mem_map.mp mem with ⟨y, deed, rfl⟩
  have about := flight.about y (Option.mem_toList.mp deed)
  cases y <;> first
    | exact Bool.noConfusion
    | exact absurd about (by simp only [Happening.about?, reduceCtorEq, not_false_eq_true])

-- Nothing that a step in flight learns is about another submission.
theorem learned_deed_of_ne (flight : Flight q s n i d o fate) (j : Nat) {m : Nat} (other : m ≠ n) :
    learned m (d.toList.map fun x => (j, x)) = [] := by
  unfold learned
  rw [List.filter_eq_nil_iff]
  intro x mem
  rcases List.mem_map.mp mem with ⟨y, deed, rfl⟩
  rw [beq_iff_eq, flight.about y (Option.mem_toList.mp deed)]
  exact fun same => other (Option.some.inj same).symm

-- The answer to a lookup asks nothing of the chains.
theorem acts_of_answer {wait : Confirmation.Wait}
    {r : Confirmation.Verdict ⊕ Confirmation.Wait} {outcome : Outcome Bool}
    (answer : wait.next = .answer i outcome) (fire : wait.fire q.lookup s.outside = (r, o)) :
    o.acts = s.outside.acts := by
  rw [← show _ = o from congrArg Prod.snd fire]
  rcases outcome with (_ | _) | f | text
  · rw [Confirmation.Wait.fire_settled answer]
  · rw [Confirmation.Wait.fire_pending answer]
  · rw [Confirmation.Wait.fire_failure answer]
    rfl
  · rw [Confirmation.Wait.fire_crash answer]

-- A step that goes on makes the lookup that it attributes to the submission in
-- flight, if any.
theorem lookups_on {stage : Stage} {as : List (Nat × Act)}
    (flight : Flight q s n i d o (.on stage)) (acts : o.acts = as ++ s.outside.acts) :
    lookups as = inquiries (d.toList.map fun x => (i, x)) := by
  have nothing (same : o.acts = s.outside.acts) : as = [] :=
    List.self_eq_append_left.mp (same.symm.trans acts)
  cases flight with
  | retries stage fire =>
    rename_i run next
    rcases run.fire_acts q.broadcast s.outside with same | more
    · rw [nothing (by rw [← same, fire])]
      rfl
    · rw [fire] at more
      rw [List.append_cancel_right ((acts.symm.trans more).trans (List.singleton_append).symm)]
      rfl
  | sent returns opened paced =>
    rw [nothing (acts_of_returns returns)]
    rfl
  | asks stage opened tick fire =>
    rename_i began wait next
    have made : o = _ :=
      congrArg Prod.snd (fire.symm.trans (Confirmation.Wait.fire_tick tick))
    have more : o.acts = [(i, .lookup wait.tx.chain wait.tx.hash)] ++ s.outside.acts := by
      rw [made]
      rfl
    rw [List.append_cancel_right (acts.symm.trans more)]
    rfl
  | pending stage opened answer fire =>
    rename_i began wait next outcome
    rw [nothing (acts_of_answer answer fire)]
    rfl

-- A step that answers makes no lookup.
theorem inquiries_over {r : Response} (flight : Flight q s n i d o (.answered r)) (j : Nat) :
    inquiries (d.toList.map fun x => (j, x)) = [] := by
  cases flight <;> rfl

-- A step that takes the worker down makes no lookup.
theorem inquiries_crash {text : String} (flight : Flight q s n i d o (.crash text)) (j : Nat) :
    inquiries (d.toList.map fun x => (j, x)) = [] := by
  cases flight <;> rfl

end Flight

namespace Step

/-- What a step tells is what its entries say. -/
theorem said_eq (step : Step q s h t) : t.events = said h ++ s.events := by
  cases step with
  | start | turnAway | lineUp | leaveLine | depart | dropHandle | wait => rfl
  | accept | store => rfl
  | close held running =>
    rcases s.close_shape with ⟨m, shape⟩
    rw [shape, said_append, said_toldAll]
    exact (List.append_nil (s.refusals s.inLine)).symm ▸ rfl
  | lose alive =>
    rcases s.leave_shape s.loss with ⟨m, shape⟩
    rw [shape]
    exact congrArg (· ++ s.events) (said_toldAll _).symm
  | take stage opened buffer =>
    rw [said_didAll, (s.receive_frame q _ _).1]
    rfl
  | goesOn flight acts calm =>
    rw [said_append, said_didAll, flight.said_deed]
    rfl
  | isOver flight calm =>
    refine congrArg (_ :: ·) ?_
    exact congrArg (· ++ s.events) (flight.said_deed _).symm
  | crashes flight calm =>
    rename_i n i d o text
    rcases (s.after i o).leave_shape (.crashed text) with ⟨m, shape⟩
    rw [shape, said_append, flight.said_deed, List.append_nil]
    exact congrArg (· ++ s.events) (said_toldAll _).symm
  | drain stage closed =>
    rcases s.drain_shape (by rw [stage]; rfl) with ⟨m, shape⟩
    rw [shape]
    exact congrArg (· ++ s.events) (said_toldAll _).symm
  | finish stage opened buffer held waiters =>
    rcases s.leave_shape .finished with ⟨m, shape⟩
    have nobody : s.refusals s.inLine ++ s.replies (.failed .missingResult) s.inHand = [] := by
      simp only [State.inLine, State.inHand, waiters, stage, buffer]
      rfl
    rw [shape, nobody]
    rfl

-- What a step does is what its entries say.
theorem done_eq (step : Step q s h t) : t.outside.acts = done h ++ s.outside.acts := by
  cases step with
  | start | lineUp | leaveLine | depart | dropHandle | wait => rfl
  | turnAway | accept | store => exact Surroundings.acts_measure _ _
  | close held running =>
    rcases s.close_shape with ⟨m, shape⟩
    rw [shape, done_append, done_toldAll]
    rfl
  | lose alive =>
    rcases s.leave_shape s.loss with ⟨m, shape⟩
    rw [shape]
    exact congrArg (· ++ s.outside.acts) (done_toldAll _).symm
  | take stage opened buffer =>
    rw [done_didAll]
    exact acts_receive q _ _ s
  | goesOn flight acts calm =>
    rw [done_append, done_didAll, flight.done_deed, List.append_nil]
    exact acts
  | isOver flight calm =>
    refine (flight.acts_over).trans ?_
    exact congrArg (· ++ s.outside.acts) (flight.done_deed _).symm
  | crashes flight calm =>
    rename_i n i d o text
    rcases (s.after i o).leave_shape (.crashed text) with ⟨m, shape⟩
    rw [shape, done_append, flight.done_deed, List.append_nil]
    refine (flight.acts_crash).trans ?_
    exact congrArg (· ++ s.outside.acts) (done_toldAll _).symm
  | drain stage closed =>
    rcases s.drain_shape (by rw [stage]; rfl) with ⟨m, shape⟩
    rw [shape]
    exact congrArg (· ++ s.outside.acts) (done_toldAll _).symm
  | finish stage opened buffer held waiters =>
    rcases s.leave_shape .finished with ⟨m, shape⟩
    rw [shape]
    rfl

/-- A step learns nothing about a submission that is not in flight. -/
theorem learned_of_ne (step : Step q s h t) {n : Nat} (other : s.stage.ticket? ≠ some n) :
    learned n h = [] := by
  cases step with
  | start | turnAway | accept | lineUp | leaveLine | depart | dropHandle | store | finish |
      wait => rfl
  | close held running =>
    rw [learned_append, learned_toldAll]
    rfl
  | lose | drain => exact learned_toldAll n _
  | take stage opened buffer => exact learned_didAll n _
  | goesOn flight acts calm =>
    rw [learned_append, learned_didAll]
    exact flight.learned_deed_of_ne _ fun same => other (same ▸ flight.ticket?)
  | isOver flight calm =>
    exact flight.learned_deed_of_ne _ fun same => other (same ▸ flight.ticket?)
  | crashes flight calm =>
    rw [learned_append]
    refine List.append_eq_nil_iff.mpr ⟨learned_toldAll n _, ?_⟩
    exact flight.learned_deed_of_ne _ fun same => other (same ▸ flight.ticket?)

/-- A step closes the queue if its entries say so. -/
theorem closed_iff (step : Step q s h t) :
    t.shutdown = true ↔ s.shutdown = true ∨ ∃ i, (i, Happening.closed) ∈ h := by
  -- Only one kind of step closes the queue; the others have no such entry.
  have same (shutdown : t.shutdown = s.shutdown) (other : ∀ i, (i, Happening.closed) ∉ marks h) :
      t.shutdown = true ↔ s.shutdown = true ∨ ∃ i, (i, Happening.closed) ∈ h := by
    rw [shutdown]
    refine ⟨Or.inl, ?_⟩
    rintro (closed | ⟨i, mem⟩)
    · exact closed
    · exact absurd (List.mem_filter.mpr ⟨mem, rfl⟩) (other i)
  have left {i j : Nat} {how : Ending} {rest : List (Nat × Happening)} (none : marks rest = []) :
      (i, Happening.closed) ∉ marks ((j, .left how) :: rest) := by
    intro mem
    rcases List.mem_cons.mp mem with same | mem
    · exact absurd (Prod.ext_iff.mp same).2 (by simp only [reduceCtorEq, not_false_eq_true])
    · change _ ∈ marks rest at mem
      rw [none] at mem
      exact absurd mem List.not_mem_nil
  have empty {i : Nat} (none : marks h = []) : (i, Happening.closed) ∉ marks h := by
    rw [none]
    exact List.not_mem_nil
  cases step with
  | turnAway | accept | lineUp | leaveLine | depart | dropHandle | store | wait =>
    exact same rfl fun i => empty rfl
  | start stage =>
    refine same rfl fun i mem => ?_
    exact absurd (Prod.ext_iff.mp (List.mem_singleton.mp mem)).2
      (by simp only [reduceCtorEq, not_false_eq_true])
  | close held running =>
    rcases s.close_shape with ⟨m, shape⟩
    rw [shape]
    refine ⟨fun _ => Or.inr ⟨s.now, ?_⟩, fun _ => rfl⟩
    exact List.mem_append_right _ (List.mem_singleton.mpr rfl)
  | lose alive =>
    rcases s.leave_shape s.loss with ⟨m, shape⟩
    exact same (by rw [shape]; rfl) fun i => left (marks_toldAll _)
  | take stage opened buffer =>
    exact same (by rw [(s.receive_frame q _ _).1]) fun i => empty (marks_didAll _)
  | goesOn flight acts calm =>
    refine same rfl fun i => empty ?_
    rw [marks_append, marks_didAll, flight.marks_deed]
    rfl
  | isOver flight calm => exact same rfl fun i => empty (flight.marks_deed _)
  | crashes flight calm =>
    rename_i n i d o text
    rcases (s.after i o).leave_shape (.crashed text) with ⟨m, shape⟩
    refine same (by rw [shape]; rfl) fun i => left ((marks_append _ _).trans ?_)
    rw [marks_toldAll, flight.marks_deed]
    rfl
  | drain stage closed =>
    rcases s.drain_shape (by rw [stage]; rfl) with ⟨m, shape⟩
    exact same (by rw [shape]; rfl) fun i => left (marks_toldAll _)
  | finish stage opened buffer held waiters =>
    rcases s.leave_shape .finished with ⟨m, shape⟩
    exact same (by rw [shape]; rfl) fun i => left rfl

/-- Every lookup that a step makes is attributed to the submission in flight. -/
theorem lookups_eq (step : Step q s h t) (p : Punctual s) : lookups (done h) = inquiries h := by
  -- Only a step of a wait makes a lookup, at the instant at which it is due.
  cases step with
  | start | turnAway | accept | lineUp | leaveLine | depart | dropHandle | store | finish |
      wait => rfl
  | close held running =>
    rw [done_append, inquiries_append, done_toldAll, inquiries_toldAll]
    rfl
  | lose | drain =>
    refine (congrArg lookups (done_toldAll _)).trans ?_
    exact (inquiries_toldAll _).symm
  | take stage opened buffer =>
    rename_i e rest
    rw [done_didAll, inquiries_didAll]
    unfold Entry.opening
    cases e.send <;> rfl
  | goesOn flight acts calm =>
    rename_i n i d o stage as
    rw [done_append, inquiries_append, done_didAll, inquiries_didAll, flight.done_deed,
      List.append_nil, List.nil_append, p.now_flight flight]
    exact flight.lookups_on acts
  | isOver flight calm =>
    refine (congrArg lookups (flight.done_deed _)).trans ?_
    exact (flight.inquiries_over _).symm
  | crashes flight calm =>
    rw [done_append, inquiries_append, flight.done_deed, flight.inquiries_crash, List.append_nil,
      List.append_nil]
    exact (congrArg lookups (done_toldAll _)).trans (inquiries_toldAll _).symm

end Step

end Queue

end TxRelay
