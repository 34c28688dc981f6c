import TxRelay.Proofs.Queue.Places

/-!
# The Life of a Queue

Two things say how far a queue has come: the lifecycle that it shows, and
whether a shutdown was asked for. They are written by different parties. A
caller who asks for a shutdown writes both, and the worker, whichever way it
goes away, writes the first one only. Nothing forces them to agree but the order
in which that can happen.

What ties them together is what the callers were told. A caller is told that it
brought the shutdown about if the queue was running when it asked, so the log of
all requests for a shutdown decides the flag, and the flag together with the
worker decides the lifecycle. `requests` is that log; it is read off a run and
changes nothing of it.

A lifecycle only ever moves forward, and a request that is told so moves it. That
is why no two requests are told so, whoever makes them.

## Main definitions

* `Queue.Lifecycle.rank`: How far a queue has come.
* `Queue.StopRequest`: A request for a shutdown and what came of it.
* `Queue.State.requests`: The requests of a run.

## Theorems

* `Queue.State.shutdown_move`: What a move does to the flag.
* `Queue.State.rank_le_play`: A lifecycle moves forward.
* `Queue.State.told_le_one`: One request brings the shutdown about.
* `Queue.lifecycle_follows_requests`: How the lifecycle, the flag and the
  requests belong together.
-/

namespace TxRelay

namespace Queue

variable {σ : Type} {q : Setup σ} {s t : State σ} {h : List (Nat × Happening)}

/-- How far a queue has come in its life. -/
def Lifecycle.rank : Lifecycle → Nat
  | .running => 0
  | .stopping => 1
  | .stopped => 2

theorem Lifecycle.rank_le_two (l : Lifecycle) : l.rank ≤ 2 := by
  cases l <;> decide

theorem Lifecycle.rank_eq_zero {l : Lifecycle} : l.rank = 0 ↔ l = .running := by
  cases l <;> decide

/-- A request for a shutdown. -/
structure StopRequest where
  /-- Whether its caller was told that it brought the shutdown about. -/
  told : Bool
  /-- The life of the queue when it was made. -/
  found : Lifecycle

namespace State

/-- The request that a move makes. Without a handle none can be made. -/
def request? (m : Move) (s : State σ) : Option StopRequest :=
  match m with
  | .call .stop => if s.held then some ⟨s.stop.1, s.lifecycle⟩ else none
  | _ => none

/-- The requests of a run, the first one first. -/
def requests (q : Setup σ) : List Move → State σ → List StopRequest
  | [], _ => []
  | m :: rest, s => (s.request? m).toList ++ requests q rest (s.move q m)

/-- A request is told that it brought the shutdown about if the queue was
    running. -/
theorem told_iff_running (s : State σ) : s.stop.1 = true ↔ s.lifecycle = .running := by
  unfold stop
  by_cases running : s.lifecycle = .running
  · simp [running]
  · simp [running]

theorem shutdown_leave (how : Ending) (s : State σ) : (s.leave how).shutdown = s.shutdown := by
  obtain ⟨m, shape⟩ := s.leave_shape how
  rw [shape]
  rfl

theorem lifecycle_leave (how : Ending) (s : State σ) : (s.leave how).lifecycle = .stopped := by
  obtain ⟨m, shape⟩ := s.leave_shape how
  rw [shape]
  rfl

theorem shutdown_stop (s : State σ) : s.stop.2.shutdown = (s.shutdown || s.stop.1) := by
  unfold stop
  by_cases running : s.lifecycle = .running
  · obtain ⟨m, shape⟩ := s.close_shape
    rw [if_pos running]
    dsimp only
    rw [shape, Bool.or_true]
    rfl
  · rw [if_neg running, Bool.or_false]

-- The worker never asks for a shutdown, and goes away without one.
theorem shutdown_work? {limit : Nat} (work : s.work? q limit = some t) :
    t.shutdown = s.shutdown := by
  obtain ⟨idle, -, rfl⟩ | ⟨e, rest, -, -, -, rfl⟩ | ⟨-, -, -, -, -, rfl⟩ |
    ⟨n, i, d, o, fate, -, rfl⟩ := work_cases work
  · obtain ⟨m, shape⟩ := s.drain_shape (by rw [idle]; rfl)
    rw [shape]
    rfl
  · rw [(s.receive_frame q e rest).1]
  · exact shutdown_leave _ s
  · cases fate with
    | on stage => rfl
    | answered r => rfl
    | crash text => exact shutdown_leave _ _

/-- A move sets the flag if it makes a request that is told so, and leaves it
    alone otherwise. -/
theorem shutdown_move (q : Setup σ) (m : Move) (s : State σ) :
    (s.move q m).shutdown = (s.shutdown || (s.request? m).any StopRequest.told) := by
  -- Nobody makes a request but a caller who asks for a shutdown.
  have quiet {u : State σ} (same : u.shutdown = s.shutdown) (none : s.request? m = none) :
      u.shutdown = (s.shutdown || (s.request? m).any StopRequest.told) := by
    simp [same, none]
  cases m with
  | store before => exact quiet (s.storeAt_frame before).2.1 rfl
  | work =>
    refine quiet ?_ rfl
    show ((s.work? q s.now).getD s).shutdown = _
    cases work : s.work? q s.now with
    | none => rfl
    | some u => exact shutdown_work? work
  | call c =>
    cases c with
    | stop =>
      by_cases held : s.held = true
      · simp only [move, call, request?, if_pos held, Option.any_some]
        exact s.shutdown_stop
      · simp [move, call, request?, held]
    | start =>
      refine quiet ?_ rfl
      simp only [move, call, start]
      split <;> rfl
    | enqueue send =>
      refine quiet ?_ rfl
      simp only [move, call, enqueue]
      split
      · split
        · rfl
        · split <;> rfl
      · rfl
    | advance span =>
      refine quiet ?_ rfl
      simp only [move, call, pass]
      split
      · rfl
      · cases work : s.work? q (s.now + span) with
        | none => rfl
        | some u => exact shutdown_work? work
    | lose =>
      refine quiet ?_ rfl
      simp only [move, call, abort]
      split
      · rfl
      · exact shutdown_leave _ s
    | dropHandle => exact quiet rfl rfl
    | withdraw ticket =>
      refine quiet ?_ rfl
      simp only [move, call, withdraw]
      split <;> rfl

/-- The flag says whether a request was told that it brought the shutdown about. -/
theorem shutdown_play (q : Setup σ) (moves : List Move) (s : State σ) :
    (s.play q moves).shutdown = (s.shutdown || (s.requests q moves).any StopRequest.told) := by
  induction moves generalizing s with
  | nil => simp [play, requests]
  | cons m rest ih =>
    show ((s.move q m).play q rest).shutdown = _
    rw [ih, shutdown_move, requests, List.any_append, Bool.or_assoc]
    cases s.request? m <;> simp

end State

/-- No step moves the lifecycle back. -/
theorem Step.rank_le (step : Step q s h t) : s.lifecycle.rank ≤ t.lifecycle.rank := by
  -- Where the worker goes away the lifecycle is at its end.
  have ends (how : Ending) (u : State σ) : s.lifecycle.rank ≤ (u.leave how).lifecycle.rank := by
    rw [State.lifecycle_leave]
    exact s.lifecycle.rank_le_two
  cases step with
  | close held running => simp [running, Lifecycle.rank]
  | lose alive => exact ends _ s
  | crashes flight calm => exact ends _ _
  | drain stage closed => exact ends .finished _
  | finish stage opened buffer held waiters => exact ends _ s
  | @take e rest stage opened buffer =>
    exact Nat.le_of_eq (by rw [(s.receive_frame q e rest).1])
  | _ => exact Nat.le_refl _

namespace State

theorem rank_le_move (q : Setup σ) (m : Move) (s : State σ) :
    s.lifecycle.rank ≤ (s.move q m).lifecycle.rank := by
  obtain ⟨same, -⟩ | step := Step.of_move q m s
  · exact Nat.le_of_eq (by rw [same])
  · exact step.rank_le

/-- A lifecycle only moves forward. -/
theorem rank_le_play (q : Setup σ) (moves : List Move) (s : State σ) :
    s.lifecycle.rank ≤ (s.play q moves).lifecycle.rank := by
  refine play_induction q (P := fun t => s.lifecycle.rank ≤ t.lifecycle.rank) ?_ moves s
    (Nat.le_refl _)
  exact fun t m before => Nat.le_trans before (t.rank_le_move q m)

-- A queue that does not run never runs again.
theorem not_running_move {m : Move} (stopped : s.lifecycle ≠ .running) :
    (s.move q m).lifecycle ≠ .running := by
  intro running
  have forward := s.rank_le_move q m
  rw [running] at forward
  exact stopped (Lifecycle.rank_eq_zero.mp (Nat.le_zero.mp forward))

-- A request that is told so was made of a running queue, and the queue runs no
-- more.
theorem request?_told {m : Move} {r : StopRequest} (request : s.request? m = some r) :
    (r.told = true ↔ r.found = .running) ∧
      (r.told = true → s.lifecycle = .running ∧ (s.move q m).lifecycle ≠ .running) := by
  unfold request? at request
  split at request
  · by_cases held : s.held = true
    · rw [if_pos held] at request
      obtain rfl := Option.some.inj request
      refine ⟨s.told_iff_running, fun told => ⟨s.told_iff_running.mp told, ?_⟩⟩
      have running := s.told_iff_running.mp told
      obtain ⟨m, shape⟩ := s.close_shape
      simp only [move, call, if_pos held, stop, if_pos running]
      rw [shape]
      exact Lifecycle.noConfusion
    · rw [if_neg held] at request
      exact absurd request (by simp)
  · exact absurd request (by simp)

-- A queue that does not run tells nobody so.
theorem untold (q : Setup σ) (moves : List Move) (s : State σ)
    (stopped : s.lifecycle ≠ .running) : ∀ r ∈ s.requests q moves, r.told = false := by
  induction moves generalizing s with
  | nil => exact fun r mem => absurd mem List.not_mem_nil
  | cons m rest ih =>
    intro r mem
    rw [requests, List.mem_append, Option.mem_toList] at mem
    obtain now | later := mem
    · cases told : r.told with
      | false => rfl
      | true => exact absurd ((request?_told (q := q) now).2 told).1 stopped
    · exact ih _ (not_running_move stopped) r later

/-- At most one request is told that it brought the shutdown about. -/
theorem told_le_one (q : Setup σ) (moves : List Move) (s : State σ) :
    (s.requests q moves).countP StopRequest.told ≤ 1 := by
  induction moves generalizing s with
  | nil => exact Nat.zero_le 1
  | cons m rest ih =>
    have later := ih (s.move q m)
    rw [requests, List.countP_append]
    cases request : s.request? m with
    | none => simpa using later
    | some r =>
      by_cases told : r.told = true
      · -- The one that is told so leaves nothing to tell the others.
        have stops := ((request?_told (q := q) request).2 told).2
        have none : ((s.move q m).requests q rest).countP StopRequest.told = 0 := by
          rw [List.countP_eq_zero]
          simpa using untold q rest _ stops
        simp [none, told]
      · simpa [told] using later

-- What was told to a request agrees with what it found.
theorem told_iff_found (q : Setup σ) (moves : List Move) (s : State σ) :
    ∀ r ∈ s.requests q moves, r.told = true ↔ r.found = .running := by
  induction moves generalizing s with
  | nil => exact fun r mem => absurd mem List.not_mem_nil
  | cons m rest ih =>
    intro r mem
    rw [requests, List.mem_append, Option.mem_toList] at mem
    obtain now | later := mem
    · exact (request?_told (q := q) now).1
    · exact ih _ r later

end State

namespace Orderly

/-- A queue shows that it is stopped exactly when its worker is gone. -/
theorem stopped_iff (o : Orderly s) : s.lifecycle = .stopped ↔ s.stage.ending?.isSome = true := by
  cases ending : s.stage.ending? with
  | none =>
    have running := o.running ending
    split at running <;> simp [running]
  | some how => simpa using o.stopped (by simp [ending])

/-- While there is a worker, the flag decides the lifecycle. -/
theorem stopping_iff (o : Orderly s) (alive : s.stage.ending? = none) :
    (s.lifecycle = .stopping ↔ s.shutdown = true) ∧
      (s.lifecycle = .running ↔ s.shutdown = false) := by
  have running := o.running alive
  cases closed : s.shutdown <;> simp [running, closed]

end Orderly

/-- How the lifecycle, the flag and the requests for a shutdown belong together
    at any point of any run, whatever happens after it. The queue is stopped
    exactly when its worker is gone; otherwise it is stopping exactly when a
    request was told that it brought the shutdown about, and running exactly
    when none was; and the same requests decide the flag. The lifecycle never
    moves back, at most one request is told so, and it is told so exactly if it
    found the queue running. -/
theorem lifecycle_follows_requests (q : Setup σ) (outside : Surroundings σ)
    (before after : List Move) :
    let fresh := State.fresh outside
    let s := fresh.play q before
    let requests := fresh.requests q before
    (s.lifecycle = .stopped ↔ s.stage.ending?.isSome = true) ∧
      (s.stage.ending? = none →
        (s.lifecycle = .stopping ↔ ∃ r ∈ requests, r.told = true) ∧
        (s.lifecycle = .running ↔ ∀ r ∈ requests, r.told = false)) ∧
      (s.shutdown = true ↔ ∃ r ∈ requests, r.told = true) ∧
      s.lifecycle.rank ≤ (fresh.play q (before ++ after)).lifecycle.rank ∧
      requests.countP StopRequest.told ≤ 1 ∧
      ∀ r ∈ requests, (r.told = true ↔ r.found = .running) := by
  intro fresh s requests
  have orderly : Orderly s := Orderly.play q before outside
  have flag : s.shutdown = requests.any StopRequest.told := by
    rw [show s.shutdown = _ from fresh.shutdown_play q before]
    rfl
  have asked : s.shutdown = true ↔ ∃ r ∈ requests, r.told = true := by
    rw [flag, List.any_eq_true]
  refine ⟨orderly.stopped_iff, fun alive => ?_, asked, ?_, fresh.told_le_one q before,
    fresh.told_iff_found q before⟩
  · obtain ⟨stopping, running⟩ := orderly.stopping_iff alive
    refine ⟨stopping.trans asked, running.trans ?_⟩
    rw [flag, List.any_eq_false]
    simp
  · rw [State.play_append]
    exact s.rank_le_play q after

end Queue

end TxRelay
