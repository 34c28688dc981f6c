import TxRelay.Proofs.Queue.Places

/-!
# The Queue of a Service

A queue that is kept by somebody who only lets others in makes fewer moves than a
queue can make: it is asked for submissions by its keeper and by nobody else, nobody
gives up the handle and nobody takes the worker away. Moves of this kind are
served. They neither number submissions nor drop the handle, and where one of them
takes the worker down, an operation did.

## Main definitions

* `Queue.Move.served`: What happens to the queue of a service.

## Theorems

* `Queue.State.frame_enqueue`, `frame_move`: What a caller who asks leaves alone, and
  what served moves do.
* `Queue.State.ending_move`: How they take the worker down.
-/

namespace TxRelay

namespace Queue

variable {σ : Type} {q : Setup σ} {s t : State σ}

/-- Whether a move happens to the queue of a service. -/
def Move.served : Move → Bool
  | .call (.enqueue _) | .call .lose | .call .dropHandle => false
  | _ => true

namespace State

/-- A caller who asks is numbered, and touches neither the worker nor the chains. -/
theorem frame_enqueue (places : Nat) (send : Send) (s : State σ) :
    (s.enqueue places send).asked = s.asked + 1 ∧ (s.enqueue places send).held = s.held ∧
      (s.enqueue places send).stage = s.stage ∧
      (s.enqueue places send).outside.acts = s.outside.acts ∧
      (s.enqueue places send).outside.world = s.outside.world := by
  unfold enqueue
  dsimp only
  split
  · exact ⟨rfl, rfl, rfl, Surroundings.acts_measure _ _, Surroundings.world_measure _ _⟩
  · split
    · exact ⟨rfl, rfl, rfl, Surroundings.acts_measure _ _, Surroundings.world_measure _ _⟩
    · exact ⟨rfl, rfl, rfl, rfl, rfl⟩

-- Who stores or lines up is who did before, or the caller who asks.
theorem mem_enqueue {places : Nat} {send : Send} {s : State σ} {e : Entry}
    (mem : e ∈ (s.enqueue places send).buffer ++ (s.enqueue places send).waiters) :
    e ∈ s.buffer ++ s.waiters ∨ e = ⟨s.asked, send⟩ := by
  unfold enqueue at mem
  dsimp only at mem
  split at mem
  · exact Or.inl mem
  · split at mem
    · have mem : e ∈ (s.buffer ++ [⟨s.asked, send⟩]) ++ s.waiters := mem
      simp only [List.mem_append, List.mem_singleton] at mem
      obtain (mem | same) | mem := mem
      · exact Or.inl (List.mem_append_left _ mem)
      · exact Or.inr same
      · exact Or.inl (List.mem_append_right _ mem)
    · have mem : e ∈ s.buffer ++ (s.waiters ++ [⟨s.asked, send⟩]) := mem
      simp only [List.mem_append, List.mem_singleton] at mem
      obtain mem | mem | same := mem
      · exact Or.inl (List.mem_append_left _ mem)
      · exact Or.inl (List.mem_append_right _ mem)
      · exact Or.inr same

-- The worker numbers no submissions, and does not touch the handle.
theorem frame_work? {limit : Nat} (work : s.work? q limit = some t) :
    t.asked = s.asked ∧ t.held = s.held := by
  have left (how : Ending) (u : State σ) : (u.leave how).asked = u.asked ∧
      (u.leave how).held = u.held := by
    obtain ⟨m, shape⟩ := u.leave_shape how
    rw [shape]
    exact ⟨rfl, rfl⟩
  obtain ⟨idle, -, rfl⟩ | ⟨e, rest, -, -, -, rfl⟩ | ⟨-, -, -, -, -, rfl⟩ |
    ⟨n, i, d, o, fate, -, rfl⟩ := work_cases work
  · obtain ⟨m, shape⟩ := s.drain_shape (by rw [idle]; rfl)
    rw [shape]
    exact ⟨rfl, rfl⟩
  · rw [(s.receive_frame q e rest).1]
    exact ⟨rfl, rfl⟩
  · exact left _ s
  · cases fate with
    | on stage => exact ⟨rfl, rfl⟩
    | answered r => exact ⟨rfl, rfl⟩
    | crash text => exact left _ _

/-- A served move numbers no submissions, and does not touch the handle. -/
theorem frame_move {m : Move} (served : m.served = true) :
    (s.move q m).asked = s.asked ∧ (s.move q m).held = s.held := by
  have worked (limit : Nat) (u : State σ) (frame : u.asked = s.asked ∧ u.held = s.held) :
      ((s.work? q limit).getD u).asked = s.asked ∧ ((s.work? q limit).getD u).held = s.held := by
    cases work : s.work? q limit with
    | none => exact frame
    | some t => exact frame_work? work
  cases m with
  | store before => exact (s.storeAt_frame before).2.2
  | work => exact worked s.now s ⟨rfl, rfl⟩
  | call c =>
    cases c with
    | enqueue send => exact absurd served (by simp [Move.served])
    | lose => exact absurd served (by simp [Move.served])
    | dropHandle => exact absurd served (by simp [Move.served])
    | start =>
      simp only [move, call, start]
      split <;> exact ⟨rfl, rfl⟩
    | advance span =>
      simp only [move, call, pass]
      split
      · exact ⟨rfl, rfl⟩
      · exact worked _ _ ⟨rfl, rfl⟩
    | stop =>
      simp only [move, call, stop]
      split
      · split
        · obtain ⟨m, shape⟩ := s.close_shape
          rw [shape]
          exact ⟨rfl, rfl⟩
        · exact ⟨rfl, rfl⟩
      · exact ⟨rfl, rfl⟩
    | withdraw ticket =>
      simp only [move, call, withdraw]
      split <;> exact ⟨rfl, rfl⟩

-- A worker that takes a step goes away at the end of its work, or because an
-- operation takes it down.
theorem ending_work? {limit : Nat} {how : Ending} (work : s.work? q limit = some t)
    (gone : t.stage.ending? = some how) :
    how = .finished ∨ ∃ n i d o text, Flight q s n i d o (.crash text) := by
  obtain ⟨idle, -, rfl⟩ | ⟨e, rest, -, -, -, rfl⟩ | ⟨-, -, -, -, -, rfl⟩ |
    ⟨n, i, d, o, fate, flight, rfl⟩ := work_cases work
  · obtain ⟨m, shape⟩ := s.drain_shape (by rw [idle]; rfl)
    rw [shape] at gone
    exact Or.inl (Option.some.inj gone).symm
  · rw [Stage.ending?_of_ticket? (s.receive_frame q e rest).2] at gone
    exact absurd gone (by simp)
  · rw [(s.leave_cleared .finished).2] at gone
    exact Or.inl (Option.some.inj gone).symm
  · cases fate with
    | on stage =>
      have stays : stage.ending? = some how := gone
      rw [Stage.ending?_of_ticket? flight.ticket?_on] at stays
      exact absurd stays (by simp)
    | answered r => exact absurd gone (by simp [follow, answer, tell, Stage.ending?])
    | crash text => exact Or.inr ⟨n, i, d, o, text, flight⟩

/-- Where a served move ends the worker, its work was over or an operation took it
    down. -/
theorem ending_move {m : Move} {how : Ending} (served : m.served = true)
    (alive : s.stage.ending? = none) (gone : (s.move q m).stage.ending? = some how) :
    how = .finished ∨ ∃ n i d o text, Flight q s n i d o (.crash text) := by
  have stays {u : State σ} (same : u.stage.ending? = none) : u.stage.ending? ≠ some how := by
    simp [same]
  have worked (limit : Nat) (u : State σ) (same : u.stage = s.stage)
      (gone : ((s.work? q limit).getD u).stage.ending? = some how) :
      how = .finished ∨ ∃ n i d o text, Flight q s n i d o (.crash text) := by
    cases work : s.work? q limit with
    | none =>
      rw [work, Option.getD_none, same] at gone
      exact absurd gone (stays alive)
    | some t =>
      rw [work] at gone
      exact ending_work? work gone
  cases m with
  | store before =>
    refine absurd gone (stays ?_)
    rw [show (s.move q (.store before)).stage = s.stage from (s.storeAt_frame before).1]
    exact alive
  | work => exact worked s.now s rfl gone
  | call c =>
    cases c with
    | enqueue send => exact absurd served (by simp [Move.served])
    | lose => exact absurd served (by simp [Move.served])
    | dropHandle => exact absurd served (by simp [Move.served])
    | start =>
      refine absurd gone (stays ?_)
      simp only [move, call, start]
      split
      · rfl
      · exact alive
    | advance span =>
      simp only [move, call, pass] at gone
      split at gone
      · exact absurd gone (stays alive)
      · exact worked _ (s.moveTo (s.now + span)) rfl gone
    | stop =>
      refine absurd gone (stays ?_)
      simp only [move, call, stop]
      split
      · split
        · obtain ⟨m, shape⟩ := s.close_shape
          rw [shape]
          exact alive
        · exact alive
      · exact alive
    | withdraw ticket =>
      refine absurd gone (stays ?_)
      simp only [move, call, withdraw]
      split <;> exact alive

end State

end Queue

end TxRelay
