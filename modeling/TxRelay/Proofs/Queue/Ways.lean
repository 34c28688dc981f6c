import TxRelay.Proofs.Queue.Runs

/-!
# Ways and Rest

A way leads from one state of a queue to another if some list of moves does. Runs
made of commands are such ways, and so is everything that happens on the clock. What
is known of the end of a way can say something of everything on it, and what is
known of its beginning can too.

Every command lets everything happen that can happen then, so between commands a queue
is at rest. There a command is what is done from outside, and everything that can
happen then.

## Main definitions

* `Queue.State.Leads`: A way from one state to another.
* `Queue.Throughout`: What holds all the way.
* `Queue.AtRest`: Nothing can happen any more.

## Theorems

* `iterate_alike`: Two machines that take the same steps end alike.
* `Queue.Step.asks`: Who is given a number.
* `Queue.AtRest.perform_eq`: What a command is, in a queue at rest.
* `Queue.AtRest.run`: Every run made of commands leads from rest to rest.
* `Queue.AtRest.run_timely`: Its moves are made in their turn.
-/

namespace TxRelay

/-- Two machines that take the same steps end alike. -/
theorem iterate_alike {α β γ δ : Type} [WellFoundedRelation β] [WellFoundedRelation δ]
    {step : α → Option α} {rank : α → β} {step' : γ → Option γ} {rank' : γ → δ}
    {falls : ∀ a b, step a = some b → WellFoundedRelation.rel (rank b) (rank a)}
    {falls' : ∀ a b, step' a = some b → WellFoundedRelation.rel (rank' b) (rank' a)}
    {R : α → γ → Prop}
    (rest : ∀ a c, R a c → step a = none → step' c = none)
    (same : ∀ a b c, R a c → step a = some b → ∃ d, step' c = some d ∧ R b d)
    (a : α) (c : γ) (start : R a c) :
    R (iterate step rank falls a) (iterate step' rank' falls' c) := by
  fun_induction iterate step rank falls a generalizing c with
  | case1 a none =>
    rw [iterate_eq_of_none (rest a c start none)]
    exact start
  | case2 a b some ih =>
    rcases same a b c start some with ⟨d, some', next⟩
    rw [iterate_eq_of_some some']
    exact ih d next

namespace Queue

variable {σ : Type}

/-- A way leads from one state to another. -/
def State.Leads (q : Setup σ) (s t : State σ) : Prop :=
  ∃ moves, t = s.play q moves

namespace State.Leads

variable {q : Setup σ} {s t u : State σ}

theorem refl (s : State σ) : Leads q s s := ⟨[], rfl⟩

theorem trans (first : Leads q s t) (second : Leads q t u) : Leads q s u := by
  rcases first with ⟨moves, rfl⟩
  rcases second with ⟨more, rfl⟩
  exact ⟨moves ++ more, (State.play_append q moves more s).symm⟩

theorem move (m : Move) (s : State σ) : Leads q s (s.move q m) := ⟨[m], rfl⟩

theorem perform (c : Command) (o : Orderly s) : Leads q s (s.perform q c) :=
  State.perform_eq_play c o

theorem run (commands : List Command) (o : Orderly s) : Leads q s (s.run q commands) :=
  State.run_eq_play commands o

-- The clock moves on to an instant up to which everything has happened.
theorem advance {limit : Nat} (o : Orderly s) (soon : s.now ≤ limit) :
    Leads q (s.runTo q limit) (s.advanceTo q limit) := by
  have early := (State.runTo_eq_play (q := q) o soon).2
  have passed := State.pass_of_rest early (State.runTo_rest q limit s)
  refine ⟨[.call (.advance (limit - (s.runTo q limit).now))], ?_⟩
  show (s.runTo q limit).moveTo limit = (s.runTo q limit).pass q _
  rw [Nat.add_sub_cancel' early, passed]

theorem settle (o : Orderly s) : Leads q s (s.settle q) :=
  (State.runTo_eq_play o (Nat.le_refl s.now)).1

theorem orderly (way : Leads q s t) (o : Orderly s) : Orderly t := by
  rcases way with ⟨moves, rfl⟩
  exact State.orderly_play q moves o

theorem settle_run (commands : List Command) (o : Orderly s) :
    Leads q s ((s.settle q).run q commands) :=
  (settle o).trans (run commands ((settle o).orderly o))

end State.Leads

/-- Something holds all the way from one state to another. -/
def Throughout (q : Setup σ) (P : State σ → Prop) (s t : State σ) : Prop :=
  ∀ u, s.Leads q u → u.Leads q t → P u

namespace Throughout

variable {q : Setup σ} {P : State σ → Prop} {s t u : State σ}

-- It holds where the way begins.
theorem first (all : Throughout q P s t) (way : s.Leads q t) : P s :=
  all s (.refl s) way

-- It holds on a part of the way.
theorem part {s' t' : State σ} (all : Throughout q P s t) (before : s.Leads q s')
    (behind : t'.Leads q t) : Throughout q P s' t' :=
  fun u there onward => all u (before.trans there) (onward.trans behind)

end Throughout

-- Numbers are given out to callers who hold the queue, and a handle that was given up
-- does not come back.
theorem Step.asks {q : Setup σ} {s t : State σ} {h : List (Nat × Happening)}
    (step : Step q s h t) :
    (t.asked = s.asked ∨ s.held = true ∧ t.asked = s.asked + 1) ∧ t.held = s.held ∨
      t.held = false ∧ t.asked = s.asked := by
  -- Whoever goes away asks nobody and takes no handle along.
  have left {u : State σ} {how : Ending} (asked : u.asked = s.asked) (held : u.held = s.held) :
      ((u.leave how).asked = s.asked ∨
        s.held = true ∧ (u.leave how).asked = s.asked + 1) ∧ (u.leave how).held = s.held := by
    rcases u.leave_shape how with ⟨m, shape⟩
    rw [shape]
    exact ⟨Or.inl asked, held⟩
  cases step with
  | turnAway held | accept _ held | lineUp _ held => exact Or.inl ⟨Or.inr ⟨held, rfl⟩, rfl⟩
  | dropHandle => exact Or.inr ⟨rfl, rfl⟩
  | close =>
    rcases s.close_shape with ⟨m, shape⟩
    rw [shape]
    exact Or.inl ⟨Or.inl rfl, rfl⟩
  | lose | finish | crashes => exact Or.inl (left rfl rfl)
  | drain stage =>
    rcases s.drain_shape (by rw [stage]; rfl) with ⟨m, shape⟩
    rw [shape]
    exact Or.inl ⟨Or.inl rfl, rfl⟩
  | @take e rest =>
    rw [(s.receive_frame q e rest).1]
    exact Or.inl ⟨Or.inl rfl, rfl⟩
  | _ => exact Or.inl ⟨Or.inl rfl, rfl⟩

theorem Step.asked_le {q : Setup σ} {s t : State σ} {h : List (Nat × Happening)}
    (step : Step q s h t) : s.asked ≤ t.asked := by
  have asks := step.asks
  omega

-- Numbers are not taken back.
theorem State.Leads.asked_le {q : Setup σ} {s t : State σ} (way : s.Leads q t) :
    s.asked ≤ t.asked := by
  rcases way with ⟨moves, rfl⟩
  exact State.step_induction q (P := fun u : State σ => s.asked ≤ u.asked)
    (fun _ _ _ step before => Nat.le_trans before step.asked_le) moves s (Nat.le_refl _)

-- Nobody asks a queue that nobody holds.
theorem State.Leads.asked_of_unheld {q : Setup σ} {s t : State σ} (way : s.Leads q t)
    (unheld : s.held = false) :
    t.asked = s.asked := by
  rcases way with ⟨moves, rfl⟩
  have both : (s.play q moves).held = false ∧ (s.play q moves).asked = s.asked := by
    refine State.step_induction q
      (P := fun u : State σ => u.held = false ∧ u.asked = s.asked) ?_ moves s ⟨unheld, rfl⟩
    rintro u _ w step ⟨free, same⟩
    have asks := step.asks
    rw [free] at asks
    rcases asks with ⟨asked | ⟨held, -⟩, still⟩ | ⟨still, asked⟩
    · exact ⟨still, asked.trans same⟩
    · exact absurd held Bool.noConfusion
    · exact ⟨still, asked.trans same⟩
  exact both.2

/-- The time that passes, if time is let pass. -/
def Command.span? : Command → Option Nat
  | .advance span => some span
  | _ => none

theorem Command.eq_advance {c : Command} {span : Nat} (advances : c.span? = some span) :
    c = .advance span := by
  cases c with
  | advance n => rw [Option.some.inj advances]
  | _ => exact absurd advances (by simp only [Command.span?, reduceCtorEq, not_false_eq_true])

-- What is done from outside keeps the queue in order.
theorem State.orderly_call {q : Setup σ} {s : State σ} (c : Command) (o : Orderly s) :
    Orderly (s.call q c) :=
  State.orderly_play q [.call c] o

/-- Nothing can happen any more at this instant in a queue that is in order. -/
structure AtRest (q : Setup σ) (s : State σ) : Prop where
  /-- The queue is in order. -/
  orderly : Orderly s
  /-- Nothing can happen. -/
  still : s.step? q s.now = none

namespace AtRest

variable {q : Setup σ} {s : State σ}

theorem fresh (q : Setup σ) (world : σ) : AtRest q (State.fresh (.fresh world)) :=
  ⟨.fresh _, rfl⟩

-- A queue in which nothing can happen stays as it is.
theorem settle (rest : AtRest q s) : s.settle q = s :=
  iterate_eq_of_none rest.still

-- No place is on its way.
theorem granted (rest : AtRest q s) : s.granted = 0 :=
  (State.rest_of_step? (Nat.le_refl s.now) rest.still).2.1

-- Everything has happened that can happen.
theorem of_settle (o : Orderly s) : AtRest q (s.settle q) := by
  have same : (s.settle q).now = s.now :=
    Nat.le_antisymm (State.runTo_eq_play o (Nat.le_refl _)).2 (State.now_le_runTo q s.now s)
  refine ⟨(State.Leads.settle o).orderly o, ?_⟩
  rw [same]
  exact State.runTo_rest q s.now s

-- A command is a call, and everything that can happen then, unless time passes.
theorem perform_eq {c : Command} (rest : AtRest q s) (instant : c.span? = none) :
    s.perform q c = (s.call q c).settle q := by
  -- What is asked of a queue that nobody holds is not done.
  have holding (u : State σ) :
      (if s.held then u.settle q else s) = (if s.held then u else s).settle q := by
    by_cases held : s.held = true
    · rw [if_pos held, if_pos held]
    · rw [if_neg held, if_neg held, rest.settle]
  cases c with
  | advance span => exact absurd instant (Option.some_ne_none span)
  | enqueue send => exact holding _
  | stop => exact holding _
  | _ => rfl

-- What the worker waits for does not come sooner when the clock moves.
theorem work?_moveTo {limit : Nat} (i : Nat) (rest : s.work? q limit = none) :
    (s.moveTo i).work? q limit = none := by
  have never {P : Prop} {u : State σ} (some : Option.some u = none) : P :=
    absurd some (Option.some_ne_none u)
  have same : (s.moveTo i).stage = s.stage := rfl
  unfold State.work? at rest ⊢
  rw [same]
  rcases stage : s.stage with _ | _ | ⟨n, (⟨soon, outcome⟩ | _) | run⟩ | ⟨n, began, wait⟩ | how
  · rfl
  · rw [stage] at rest
    dsimp only at rest ⊢
    by_cases closed : s.shutdown = true
    · rw [if_pos closed] at rest
      exact never rest
    · rw [if_neg closed] at rest
      rw [if_neg (show ¬(s.moveTo i).shutdown = true from closed),
        show (s.moveTo i).buffer = s.buffer from rfl]
      cases buffer : s.buffer with
      | cons e others =>
        rw [buffer] at rest
        exact never rest
      | nil =>
        rw [buffer] at rest
        dsimp only at rest ⊢
        by_cases ends : (!s.held && s.waiters.isEmpty) = true
        · rw [if_pos ends] at rest
          exact never rest
        · exact if_neg ends
  · rw [stage] at rest
    dsimp only at rest ⊢
    by_cases due : soon ≤ limit
    · rw [if_pos due] at rest
      exact never rest
    · rw [if_neg due]
  · rfl
  · rw [stage] at rest
    dsimp only at rest ⊢
    by_cases due : run.due ≤ limit
    · rw [if_pos due] at rest
      split at rest <;> exact never rest
    · rw [if_neg due]
  · rw [stage] at rest
    dsimp only at rest ⊢
    by_cases closed : s.shutdown = true
    · rw [if_pos closed] at rest
      exact never rest
    · rw [if_neg closed] at rest
      rw [if_neg (show ¬(s.moveTo i).shutdown = true from closed)]
      by_cases due : wait.due ≤ limit
      · rw [if_pos due] at rest
        split at rest <;> exact never rest
      · rw [if_neg due]
  · rfl

-- Everything has happened that can happen up to an instant, and the clock is there.
theorem of_advance {limit : Nat} (o : Orderly s) (soon : s.now ≤ limit) :
    AtRest q (s.advanceTo q limit) := by
  have early := (State.runTo_eq_play (q := q) o soon).2
  rcases State.rest_of_step? early (State.runTo_rest q limit s) with ⟨-, granted, rest⟩
  have now : (s.advanceTo q limit).now = limit := Nat.max_eq_right early
  have orderly := (State.Leads.perform (q := q) (.advance (limit - s.now)) o).orderly o
  unfold State.perform at orderly
  dsimp only at orderly
  rw [Nat.add_sub_cancel' soon] at orderly
  refine ⟨orderly, ?_⟩
  unfold State.step?
  rw [now, Nat.min_self]
  have still : (s.advanceTo q limit).work? q limit = none := work?_moveTo limit rest
  have free : (s.advanceTo q limit).granted = 0 := granted
  rw [still, free]
  rfl

/-- Every command lets everything happen that can happen then, -/
theorem perform (c : Command) (rest : AtRest q s) : AtRest q (s.perform q c) := by
  cases advances : c.span? with
  | some span =>
    rw [Command.eq_advance advances]
    exact of_advance rest.orderly (Nat.le_add_right _ _)
  | none =>
    rw [rest.perform_eq advances]
    exact of_settle (State.orderly_call c rest.orderly)

/-- and so does every run. -/
theorem run (commands : List Command) (rest : AtRest q s) : AtRest q (s.run q commands) :=
  State.run_induction q (fun _ c before => before.perform c) commands s rest

/-- A run made of commands is made of moves, each in its turn. -/
theorem run_timely (commands : List Command) (rest : AtRest q s) :
    ∃ moves, s.Along q State.Timely moves ∧ s.run q commands = s.play q moves := by
  induction commands generalizing s with
  | nil => exact ⟨[], trivial, rfl⟩
  | cons c others ih =>
    rcases State.perform_timely (q := q) c rest.orderly with ⟨moves, -, timely, first⟩
    rcases ih (rest.perform c) with ⟨more, timely', second⟩
    rw [first] at timely'
    refine ⟨moves ++ more, State.along_append.mpr ⟨timely rest.granted, timely'⟩, ?_⟩
    rw [State.play_append, ← first]
    exact second

end AtRest

end Queue

end TxRelay
