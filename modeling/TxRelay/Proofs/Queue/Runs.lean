import TxRelay.Proofs.Queue.Ledger

/-!
# Runs Are Made of Moves

A run made of commands lets everything happen that can happen before the next
command, and each thing that happens is a move: a step of the worker that is
due, the entry of a caller who was handed a place, or time that passes to the
worker's next step. So a run made of commands is a run made of moves, and what
holds after every list of moves holds after every list of commands.

Not every list of moves is such a run. Between commands no place is on its way, and
callers who were handed places store their entries in line, so each of these moves is
made in its turn.

## Main definitions

* `Queue.Move.alone`: What happens without a call from outside.
* `Queue.State.Timely`: A move is made in its turn.

## Theorems

* `Queue.State.runTo_rest`: Where a run on the clock ends, nothing can happen.
* `Queue.State.runTo_timely`: A run on the clock is made of moves, each in its turn.
* `Queue.State.perform_timely`: So is a command that is given while no place is on its
  way.
* `Queue.State.run_eq_play`: A run made of commands is made of moves.
-/

namespace TxRelay

namespace Queue

/-- Whether a move happens without a call from outside, but for time that passes. -/
def Move.alone : Move → Bool
  | .work => true
  | .store _ => true
  | .call (.advance _) => true
  | _ => false

namespace State

variable {σ : Type} {q : Setup σ} {s t : State σ}

/-- A move is made in its turn: what is done from outside waits until no place is on
    its way, and those who were handed places store their entries in line. -/
def Timely (s : State σ) : Move → Prop
  | .call _ => s.granted = 0
  | .work => True
  | .store before => before = 0

-- Every list of moves keeps a queue in order.
theorem orderly_play (q : Setup σ) (moves : List Move) (o : Orderly s) :
    Orderly (s.play q moves) :=
  step_induction q (fun _ _ _ step before => before.kept step) moves s o

-- The clock moves forward with the worker, and not past the instant up to which
-- the worker's step is looked for.
theorem now_of_work? {limit : Nat} (work : s.work? q limit = some t) :
    s.now ≤ t.now ∧ t.now ≤ max s.now limit := by
  rcases ticket : s.stage.ticket? with _ | n
  · -- An idle worker takes no time.
    have still : t.now = s.now := by
      have idle := Step.idle_of_work? ticket work
      cases closed : s.shutdown with
      | true =>
        rcases s.drain_shape ticket with ⟨m, shape⟩
        simp only [work?, idle, if_pos closed] at work
        rw [← Option.some.inj work, shape]
        rfl
      | false =>
        simp only [work?, idle, if_neg (Bool.eq_false_iff.mp closed)] at work
        cases buffer : s.buffer with
        | cons e rest =>
          rw [buffer] at work
          rw [← Option.some.inj work, (s.receive_frame q e rest).1]
        | nil =>
          rw [buffer] at work
          dsimp only at work
          by_cases ends : (!s.held && s.waiters.isEmpty) = true
          · rcases s.leave_shape .finished with ⟨m, shape⟩
            rw [if_pos ends] at work
            rw [← Option.some.inj work, shape]
            rfl
          · rw [if_neg ends] at work
            exact absurd work (by simp only [reduceCtorEq, not_false_eq_true])
    omega
  · -- The clock is set to the step in flight, if it is not past it.
    rcases Flight.of_work? ticket work with ⟨i, d, o, fate, -, state, -, soon⟩
    have later : t.now = max s.now i := by
      rw [state]
      cases fate with
      | on stage => rfl
      | answered r => rfl
      | crash text =>
        rcases (s.after i o).leave_shape (.crashed text) with ⟨m, shape⟩
        rw [follow, shape]
        rfl
    omega

-- What can happen next up to an instant: a step of the worker that is due, callers
-- storing their entries, or else the worker's next step.
theorem step?_cases {limit : Nat} (step : s.step? q limit = some t) :
    s.work? q (min limit s.now) = some t ∨
      (s.work? q (min limit s.now) = none ∧
        ((0 < s.granted ∧ s.storeGranted = t) ∨ (s.granted = 0 ∧ s.work? q limit = some t))) := by
  unfold step? at step
  split at step
  · rename_i u work
    exact Or.inl (work.trans step)
  · rename_i rest
    refine Or.inr ⟨rest, ?_⟩
    by_cases granted : 0 < s.granted
    · rw [if_pos granted] at step
      exact Or.inl ⟨granted, Option.some.inj step⟩
    · rw [if_neg granted] at step
      exact Or.inr ⟨Nat.eq_zero_of_not_pos granted, step⟩

-- Where nothing can happen, the worker rests and nobody was handed a place.
theorem rest_of_step? {limit : Nat} (soon : s.now ≤ limit) (rest : s.step? q limit = none) :
    s.work? q s.now = none ∧ s.granted = 0 ∧ s.work? q limit = none := by
  unfold step? at rest
  rw [Nat.min_eq_right soon] at rest
  split at rest
  · exact absurd rest (by simp only [reduceCtorEq, not_false_eq_true])
  · rename_i still
    by_cases granted : 0 < s.granted
    · rw [if_pos granted] at rest
      exact absurd rest (by simp only [reduceCtorEq, not_false_eq_true])
    · rw [if_neg granted] at rest
      exact ⟨still, Nat.eq_zero_of_not_pos granted, rest⟩

-- A caller who stores its entry takes no time.
theorem now_storeGranted (s : State σ) : s.storeGranted.now = s.now := by
  unfold storeGranted
  rw [storeFrom_eq]

-- A step up to an instant does not take the clock past it.
theorem now_of_step? {limit : Nat} (soon : s.now ≤ limit) (step : s.step? q limit = some t) :
    t.now ≤ limit := by
  rcases step?_cases step with work | ⟨-, ⟨-, stored⟩ | ⟨-, work⟩⟩
  · have now := now_of_work? work
    omega
  · rw [← stored, now_storeGranted]
    exact soon
  · have now := now_of_work? work
    omega

-- A run on the clock does not take it back.
theorem now_le_runTo (q : Setup σ) (limit : Nat) (s : State σ) : s.now ≤ (s.runTo q limit).now := by
  refine iterate_induction (P := fun t : State σ => s.now ≤ t.now) ?_ s (Nat.le_refl s.now)
  intro t u before step
  refine Nat.le_trans before ?_
  rcases step?_cases step with work | ⟨-, ⟨-, stored⟩ | ⟨-, work⟩⟩
  · exact (now_of_work? work).1
  · exact Nat.le_of_eq (by rw [← stored, now_storeGranted])
  · exact (now_of_work? work).1

-- The first of several in line stores its entry, and then the others.
theorem storeFrom_cons {e : Entry} {line : List Entry} (waiters : s.waiters = e :: line)
    (others : List Entry) :
    s.storeFrom (e :: others) =
      (store e { s with waiters := line, granted := s.granted - 1 }).storeFrom others := by
  show storeFrom others (store e
    { s with waiters := s.waiters.drop 1, granted := s.granted - 1 }) = _
  rw [waiters, List.drop_one, List.tail_cons]

-- The first of those who were handed places stores its entry, and then the
-- others.
theorem storeGranted_of_cons {e : Entry} {line : List Entry} (granted : 0 < s.granted)
    (waiters : s.waiters = e :: line) :
    s.storeGranted =
      (store e { s with waiters := line, granted := s.granted - 1 }).storeGranted := by
  rcases Nat.exists_eq_add_one.mpr granted with ⟨rest, amount⟩
  unfold storeGranted
  rw [amount, waiters, List.take_succ_cons, storeFrom_cons waiters, amount]
  rfl

-- Nobody stores an entry who was not handed a place.
theorem storeGranted_of_none (none : s.granted = 0) : s.storeGranted = s := by
  unfold storeGranted
  rw [none]
  show { s with granted := 0 } = s
  rw [← none]

-- Callers who were handed places store their entries one after another.
theorem storeGranted_timely (q : Setup σ) (placed : s.granted ≤ s.waiters.length) :
    ∃ moves, (∀ m ∈ moves, m.alone = true) ∧ s.Along q Timely moves ∧
      s.storeGranted = s.play q moves := by
  induction granted : s.granted generalizing s with
  | zero => exact ⟨[], by simp, trivial, storeGranted_of_none granted⟩
  | succ rest ih =>
    cases waiters : s.waiters with
    | nil =>
      rw [waiters, granted] at placed
      exact absurd placed (Nat.not_succ_le_zero rest)
    | cons e line =>
      have positive : 0 < s.granted := by rw [granted]; exact Nat.succ_pos rest
      have first : s.storeAt 0 =
          store e { s with waiters := line, granted := s.granted - 1 } :=
        @storeAt_eq _ [] _ _ _ positive waiters
      have left : (s.storeAt 0).granted = rest ∧ (s.storeAt 0).waiters = line := by
        rw [first]
        refine ⟨?_, rfl⟩
        show s.granted - 1 = rest
        rw [granted]
        rfl
      rcases ih (s := s.storeAt 0) (by
          rw [left.1, left.2]
          rw [waiters, granted] at placed
          exact Nat.le_of_succ_le_succ placed) left.1 with ⟨moves, alone, timely, others⟩
      refine ⟨.store 0 :: moves, List.forall_mem_cons.mpr ⟨rfl, alone⟩, ⟨rfl, timely⟩, ?_⟩
      show s.storeGranted = (s.storeAt 0).play q moves
      rw [← others, first]
      exact storeGranted_of_cons positive waiters

-- What can happen next up to an instant is a move, or several callers storing
-- their entries.
theorem step?_timely {limit : Nat} (o : Orderly s) (soon : s.now ≤ limit)
    (step : s.step? q limit = some t) :
    ∃ moves, (∀ m ∈ moves, m.alone = true) ∧ s.Along q Timely moves ∧ t = s.play q moves := by
  rcases step?_cases step with work | ⟨rest, ⟨-, stored⟩ | ⟨granted, work⟩⟩
  · rw [Nat.min_eq_right soon] at work
    refine ⟨[.work], by simp [Move.alone], ⟨trivial, trivial⟩, ?_⟩
    show t = (s.work? q s.now).getD s
    rw [work]
    rfl
  · rcases storeGranted_timely q o.placed with ⟨moves, alone, timely, same⟩
    exact ⟨moves, alone, timely, stored.symm.trans same⟩
  · rw [Nat.min_eq_right soon] at rest
    refine ⟨[.call (.advance (limit - s.now))], by simp [Move.alone], ⟨granted, trivial⟩, ?_⟩
    show t = s.pass q (s.now + (limit - s.now))
    unfold pass
    rw [rest, Nat.add_sub_cancel' soon, work, granted]
    rfl

theorem step?_eq_play {limit : Nat} (o : Orderly s) (soon : s.now ≤ limit)
    (step : s.step? q limit = some t) : ∃ moves, t = s.play q moves := by
  rcases step?_timely o soon step with ⟨moves, -, -, same⟩
  exact ⟨moves, same⟩

/-- Where a run on the clock ends, nothing can happen up to that instant. -/
theorem runTo_rest (q : Setup σ) (limit : Nat) (s : State σ) :
    (s.runTo q limit).step? q limit = none :=
  iterate_at_rest s

/-- A run on the clock is made of moves, each in its turn, and does not go past its
    instant. -/
theorem runTo_timely {limit : Nat} (o : Orderly s) (soon : s.now ≤ limit) :
    (∃ moves, (∀ m ∈ moves, m.alone = true) ∧ s.Along q Timely moves ∧
        s.runTo q limit = s.play q moves) ∧
      (s.runTo q limit).now ≤ limit := by
  refine iterate_induction (P := fun t =>
    (∃ moves : List Move, (∀ m ∈ moves, m.alone = true) ∧ s.Along q Timely moves ∧
      t = s.play q moves) ∧ t.now ≤ limit)
    ?_ s ⟨⟨[], by simp, trivial, rfl⟩, soon⟩
  rintro u v ⟨⟨moves, alone, timely, same⟩, early⟩ step
  refine ⟨?_, now_of_step? early step⟩
  have orderly : Orderly u := by
    rw [same]
    exact orderly_play q moves o
  rcases step?_timely orderly early step with ⟨more, alone', timely', next⟩
  rw [same] at timely' next
  refine ⟨moves ++ more, ?_, along_append.mpr ⟨timely, timely'⟩, by rw [next, play_append]⟩
  intro m mem
  exact (List.mem_append.mp mem).elim (alone m) (alone' m)

-- A run on the clock is made of moves.
theorem runTo_eq_play {limit : Nat} (o : Orderly s) (soon : s.now ≤ limit) :
    (∃ moves, s.runTo q limit = s.play q moves) ∧ (s.runTo q limit).now ≤ limit := by
  rcases runTo_timely (q := q) o soon with ⟨⟨moves, -, -, same⟩, early⟩
  exact ⟨⟨moves, same⟩, early⟩

-- What is at rest up to an instant stays as it is when the clock moves there.
theorem pass_of_rest {limit : Nat} (soon : s.now ≤ limit) (rest : s.step? q limit = none) :
    s.pass q limit = s.moveTo limit := by
  rcases rest_of_step? soon rest with ⟨still, granted, later⟩
  unfold pass
  rw [still, granted, later]
  rfl

/-- A command is a run made of moves: what is done from outside, and then what follows
    from it. If no place is on its way before, each of them is made in its turn. -/
theorem perform_timely (c : Command) (o : Orderly s) :
    ∃ moves, (∀ m ∈ moves, m = .call c ∨ m.alone = true) ∧
      (s.granted = 0 → s.Along q Timely moves) ∧ s.perform q c = s.play q moves := by
  -- What is done from outside, and then everything that can happen at that instant.
  have settled : ∃ moves, (∀ m ∈ moves, m = .call c ∨ m.alone = true) ∧
      (s.granted = 0 → s.Along q Timely moves) ∧ (s.call q c).settle q = s.play q moves := by
    have orderly : Orderly (s.call q c) := orderly_play q [.call c] o
    rcases (runTo_timely (q := q) orderly (Nat.le_refl _)).1 with ⟨moves, alone, timely, same⟩
    exact ⟨.call c :: moves,
      List.forall_mem_cons.mpr ⟨Or.inl rfl, fun m mem => Or.inr (alone m mem)⟩,
      fun calm => ⟨calm, timely⟩, same⟩
  -- What is asked of a queue that nobody holds is not done.
  have held? (u : State σ) (call : s.call q c = if s.held then u else s) :
      ∃ moves, (∀ m ∈ moves, m = .call c ∨ m.alone = true) ∧
        (s.granted = 0 → s.Along q Timely moves) ∧
        (if s.held then u.settle q else s) = s.play q moves := by
    rw [call] at settled
    by_cases held : s.held = true
    · rw [if_pos held] at settled ⊢
      exact settled
    · rw [if_neg held]
      exact ⟨[], by simp, fun _ => trivial, rfl⟩
  cases c with
  | enqueue send => exact held? (s.enqueue q.places send) rfl
  | stop => exact held? s.stop.2 rfl
  | advance span =>
    have soon : s.now ≤ s.now + span := Nat.le_add_right s.now span
    rcases runTo_timely (q := q) o soon with ⟨⟨moves, alone, timely, same⟩, early⟩
    have rest := runTo_rest q (s.now + span) s
    refine ⟨moves ++ [.call (.advance (s.now + span - (s.runTo q (s.now + span)).now))],
      ?_, ?_, ?_⟩
    · intro m mem
      rcases List.mem_append.mp mem with mem | mem
      · exact Or.inr (alone m mem)
      · rw [List.mem_singleton.mp mem]
        exact Or.inr rfl
    · intro _
      refine along_append.mpr ⟨timely, ?_, trivial⟩
      rw [← same]
      exact (rest_of_step? early rest).2.1
    · rw [play_append, ← same]
      show _ = (s.runTo q (s.now + span)).pass q _
      rw [Nat.add_sub_cancel' early]
      exact (pass_of_rest early rest).symm
  | start | lose | dropHandle | withdraw ticket => exact settled

-- A command is a run made of moves.
theorem perform_eq_play (c : Command) (o : Orderly s) :
    ∃ moves, s.perform q c = s.play q moves := by
  rcases perform_timely (q := q) c o with ⟨moves, -, -, same⟩
  exact ⟨moves, same⟩

/-- A run made of commands is made of moves. -/
theorem run_eq_play (commands : List Command) (o : Orderly s) :
    ∃ moves, s.run q commands = s.play q moves := by
  induction commands generalizing s with
  | nil => exact ⟨[], rfl⟩
  | cons c rest ih =>
    rcases perform_eq_play (q := q) c o with ⟨moves, first⟩
    have orderly : Orderly (s.perform q c) := by
      rw [first]
      exact orderly_play q moves o
    rcases ih orderly with ⟨more, others⟩
    refine ⟨moves ++ more, ?_⟩
    rw [play_append, ← first]
    exact others

end State

end Queue

end TxRelay
