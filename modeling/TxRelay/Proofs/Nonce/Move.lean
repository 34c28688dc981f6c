import TxRelay.Nonce.Tracker

/-!
# Moves of the Nonce Tracker

A run made of commands lets everything happen that can happen at an instant
before the next command is given. Callers need not be so patient: one may ask
while the lock is free and somebody is about to take it, and one may leave at
the very instant at which the chain's answer is due.

A move is one thing that happens and nothing that follows from it. Moves may
come in any order, so a list of moves is a run under any schedule of the
callers. Only time is not free: it passes no further than to the next thing
that happens, and not at all while something can happen now. Runs made of
commands are runs made of moves, so what holds after every list of moves holds
after every list of commands.

## Main definitions

* `Nonce.Move`: One thing that happens.
* `Nonce.Tracker.enter`, `quit`, `pass`: A call is made, a call is given up,
  time passes.
* `Nonce.Tracker.move`, `play`: Makes a move, makes several in order.

## Theorems

* `Nonce.Tracker.step?_cases`: What can happen next.
* `Nonce.Tracker.run_eq_play`: A run made of commands is made of moves.
-/

namespace TxRelay

namespace Nonce

/-- One thing that happens to a tracker, without what follows from it. -/
inductive Move where
  /-- A call is made. -/
  | ask (call : Call)
  /-- A call is given up. -/
  | quit (ticket : Nat)
  /-- The next thing that is due by now happens. -/
  | work
  /-- Time passes, up to the next thing that happens. -/
  | pass (span : Nat)

namespace Tracker

variable {σ : Type}

/-- A call is made, and waits. -/
def enter (call : Call) (t : Tracker σ) : Tracker σ :=
  { t with asked := t.asked + 1, waiting := t.waiting ++ [(t.asked, call)] }

/-- A call is given up. -/
def quit (ticket : Nat) (t : Tracker σ) : Tracker σ :=
  { t with
    holder := t.holder.filter fun h => h.ticket != ticket
    waiting := t.waiting.filter fun w => w.1 != ticket }

/-- Time passes up to an instant, or up to the next thing that happens. It does
    not pass while something can happen now. -/
def pass (source : NonceSource σ) (limit : Nat) (t : Tracker σ) : Tracker σ :=
  if (t.step? source t.now).isSome then t
  else (t.step? source limit).getD { t with now := max t.now limit }

/-- Makes a move. A move that is not possible changes nothing. -/
def move (source : NonceSource σ) (m : Move) (t : Tracker σ) : Tracker σ :=
  match m with
  | .ask call => t.enter call
  | .quit ticket => t.quit ticket
  | .work => (t.step? source t.now).getD t
  | .pass span => t.pass source (t.now + span)

/-- Makes several moves in order. -/
def play (source : NonceSource σ) (moves : List Move) (t : Tracker σ) : Tracker σ :=
  moves.foldl (fun u m => u.move source m) t

theorem play_append (source : NonceSource σ) (first second : List Move) (t : Tracker σ) :
    t.play source (first ++ second) = (t.play source first).play source second :=
  List.foldl_append

section Steps

variable {source : NonceSource σ} {t u : Tracker σ} {limit : Nat}

-- The chain's answer arrives.
theorem step?_arriving {h : Holder} {i : Nat} {outcome : Outcome UInt64}
    (holder : t.holder = some h) (answer : h.answer = .arriving i outcome) (due : i ≤ limit) :
    t.step? source limit = some (release h outcome { t with now := max t.now i }) := by
  unfold step?
  rw [holder]
  dsimp only
  rw [answer]
  exact if_pos due

-- The first in line is given the lock.
theorem step?_waiting {ticket : Nat} {call : Call} {rest : List (Nat × Call)}
    (free : t.holder = none) (waiting : t.waiting = (ticket, call) :: rest) :
    t.step? source limit = some (serve source ticket call { t with waiting := rest }) := by
  unfold step?
  rw [free]
  dsimp only
  rw [waiting]

/-- What can happen next: the chain's answer arrives, or the first in line is
    given the lock. -/
theorem step?_cases (step : t.step? source limit = some u) :
    (∃ h i outcome, t.holder = some h ∧ h.answer = .arriving i outcome ∧ i ≤ limit ∧
      u = release h outcome { t with now := max t.now i }) ∨
    (∃ ticket call rest, t.holder = none ∧ t.waiting = (ticket, call) :: rest ∧
      u = serve source ticket call { t with waiting := rest }) := by
  rcases Option.eq_none_or_eq_some t.holder with free | ⟨h, holder⟩
  · rcases waiting : t.waiting with _ | ⟨⟨ticket, call⟩, rest⟩
    · simp [step?, free, waiting] at step
    · rw [step?_waiting free waiting, Option.some.injEq] at step
      exact Or.inr ⟨ticket, call, rest, free, rfl, step.symm⟩
  · rcases answer : h.answer with ⟨i, outcome⟩ | _
    · by_cases due : i ≤ limit
      · rw [step?_arriving holder answer due, Option.some.injEq] at step
        exact Or.inl ⟨h, i, outcome, holder, answer, due, step.symm⟩
      · simp [step?, holder, answer, due] at step
    · simp [step?, holder, answer] at step

-- What happens up to an instant also happens up to a later one.
theorem step?_mono {later : Nat} (step : t.step? source limit = some u) (le : limit ≤ later) :
    t.step? source later = some u := by
  rcases step?_cases step with ⟨h, i, outcome, holder, answer, due, rfl⟩ |
    ⟨ticket, call, rest, free, waiting, rfl⟩
  · exact step?_arriving holder answer (Nat.le_trans due le)
  · exact step?_waiting free waiting

-- Serving a call takes no time.
theorem now_serve (source : NonceSource σ) (ticket : Nat) (call : Call) (t : Tracker σ) :
    (t.serve source ticket call).now = t.now := by
  unfold serve
  cases call with
  | allocate account =>
    dsimp only
    split <;> rfl
  | reset account => rfl
  | count => rfl

-- A step up to an instant does not take the clock past it.
theorem now_of_step? (soon : t.now ≤ limit) (step : t.step? source limit = some u) :
    u.now ≤ limit := by
  rcases step?_cases step with ⟨h, i, outcome, -, -, due, rfl⟩ | ⟨ticket, call, rest, -, -, rfl⟩
  · exact Nat.max_le.mpr ⟨soon, due⟩
  · rw [now_serve]
    exact soon

-- The next thing that happens up to an instant is a move.
theorem step?_eq_play (soon : t.now ≤ limit) (step : t.step? source limit = some u) :
    ∃ moves, u = t.play source moves := by
  cases now : t.step? source t.now with
  | some v =>
    -- It is due by now, so no time has to pass.
    have same := (step?_mono now soon).symm.trans step
    refine ⟨[.work], ?_⟩
    show u = (t.step? source t.now).getD t
    rw [now, Option.getD_some]
    exact (Option.some.inj same).symm
  | none =>
    refine ⟨[.pass (limit - t.now)], ?_⟩
    show u = t.pass source (t.now + (limit - t.now))
    unfold pass
    rw [now, Nat.add_sub_cancel' soon, step]
    rfl

/-- A run on the clock is made of moves, and does not go past its instant. -/
theorem runTo_eq_play (source : NonceSource σ) (soon : t.now ≤ limit) :
    (∃ moves, t.runTo source limit = t.play source moves) ∧
      (t.runTo source limit).now ≤ limit := by
  refine iterate_induction (P := fun u => (∃ moves, u = t.play source moves) ∧ u.now ≤ limit) ?_ t
    ⟨⟨[], rfl⟩, soon⟩
  rintro u v ⟨⟨moves, same⟩, early⟩ step
  refine ⟨?_, now_of_step? early step⟩
  rcases step?_eq_play early step with ⟨more, next⟩
  refine ⟨moves ++ more, ?_⟩
  rw [next, same, play_append]

-- A command is a run made of moves.
theorem perform_eq_play (source : NonceSource σ) (c : Command) (t : Tracker σ) :
    ∃ moves, t.perform source c = t.play source moves := by
  -- What is done from outside, and then everything that can happen at that instant.
  have settled (m : Move) : ∃ moves, (t.move source m).settle source = t.play source moves := by
    rcases (runTo_eq_play source (Nat.le_refl (t.move source m).now)).1 with
      ⟨moves, same⟩
    exact ⟨m :: moves, same⟩
  cases c with
  | ask call => exact settled (.ask call)
  | withdraw ticket => exact settled (.quit ticket)
  | advance span =>
    have soon : t.now ≤ t.now + span := Nat.le_add_right t.now span
    rcases runTo_eq_play source soon with ⟨⟨moves, same⟩, early⟩
    have rest : (t.runTo source (t.now + span)).step? source (t.now + span) = none :=
      iterate_at_rest t
    refine ⟨moves ++ [.pass (t.now + span - (t.runTo source (t.now + span)).now)], ?_⟩
    rw [play_append, ← same]
    show _ = (t.runTo source (t.now + span)).pass source _
    rw [Nat.add_sub_cancel' early]
    unfold pass
    cases now : (t.runTo source (t.now + span)).step? source
        (t.runTo source (t.now + span)).now with
    | none =>
      rw [rest]
      rfl
    | some u =>
      rw [step?_mono now early] at rest
      exact absurd rest (Option.some_ne_none u)

end Steps

/-- A run made of commands is made of moves. -/
theorem run_eq_play (source : NonceSource σ) (commands : List Command) (t : Tracker σ) :
    ∃ moves, t.run source commands = t.play source moves := by
  induction commands generalizing t with
  | nil => exact ⟨[], rfl⟩
  | cons c rest ih =>
    rcases perform_eq_play source c t with ⟨moves, first⟩
    rcases ih (t.perform source c) with ⟨more, others⟩
    refine ⟨moves ++ more, ?_⟩
    rw [play_append, ← first]
    exact others

end Tracker

end Nonce

end TxRelay
