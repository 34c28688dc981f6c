import TxRelay.Proofs.Api.Move
import TxRelay.Proofs.Queue.Touch

/-!
# The Chronicle of a Service

A network keeps the requests that it sent and not for whom. The queue keeps for whom
it works and not what the nodes say. A chronicle of a service joins the two: it is a
run that writes down which transaction each submission is for, and every exchange in
which a transaction was handed over together with the submission in flight at that
moment. It also keeps the history of the queue, so that an answer can be held
against what had happened before it.

Nothing of the service depends on it (`Chronicle.service_play`), and the exchanges
are read off the same endpoints as the attempt that makes them. That no try is left
out and none made up is not part of the definition. It is an invariant
(`Api.Attributed`), and it can be stated because the network counts its tries on its
own.

Seen from the chronicle, a move is one of three things (`Turn`): it is aside from
the queue, it submits a transaction, or the queue takes a step.

## Main definitions

* `Api.Chronicle`: A service with what it did for whom.
* `Api.Chronicle.said`: The exchanges of a step.
* `Api.Chronicle.Turn`: What a move can be.

## Theorems

* `Api.Chronicle.service_play`: Keeping a chronicle changes nothing.
* `Api.Chronicle.move_turn`: A move is a turn.
* `Api.Chronicle.turn_induction`: What every turn keeps, a run keeps.
-/

namespace TxRelay

namespace Api

open Provider (Endpoints Exchange)

variable {σ : Type}

namespace Service

/-- What a move brings to light about the queue. -/
def deedOf? (c : Setup σ) (pace : Pace σ) (m : Move) (s : Service σ) : Option Queue.Happening :=
  match m with
  | .queue m => if m.served then s.queue.deedOf? (c.paced pace) m else none
  | _ => none

/-- The transaction that a move submits, and the ticket it gets. -/
def submitted? (m : Move) (s : Service σ) : Option (Nat × ChainId × Bytes) :=
  match m with
  | .request r => (r.submission? s.fleet).map fun x => (s.queue.asked, x)
  | _ => none

end Service

/-- A service with its history, and what it did for whom. -/
structure Chronicle (σ : Type) where
  /-- The service. -/
  service : Service σ
  /-- What happened to its queue and when, the latest first. -/
  history : List (Nat × Queue.Happening)
  /-- The transactions that were submitted, by ticket, the latest first. -/
  posted : List (Nat × ChainId × Bytes)
  /-- What was said when transactions were handed over, and for which submission,
      the latest first. -/
  talks : List (Nat × Exchange)

namespace Chronicle

/-- A service of which nothing was asked yet. -/
def fresh (f : Fleet) (world : σ) (untracked : List ChainId) : Chronicle σ :=
  ⟨.fresh f world untracked, [], [], []⟩

/-- What was said for the submission in flight between two states of a queue, the
    latest first. -/
def said (endpoints : Endpoints σ) (s t : Queue.State (Network σ)) : List (Nat × Exchange) :=
  match t.stage.ticket? with
  | none => []
  | some n =>
    (Queue.attempts (Queue.newest t.outside.acts s.outside.acts)).flatMap fun x =>
      ((s.outside.world.attempt endpoints x.1 x.2).map fun y => (n, y)).reverse

/-- Makes a move and writes down what happened. -/
def move (c : Setup σ) (pace : Pace σ) (m : Move) (g : Chronicle σ) : Chronicle σ :=
  let t := g.service.move c pace m
  { service := t
    history :=
      Queue.State.entries (g.service.deedOf? c pace m) g.service.queue t.queue ++ g.history
    posted := (g.service.submitted? m).toList ++ g.posted
    talks := said c.endpoints g.service.queue t.queue ++ g.talks }

/-- Makes several moves in order. -/
def play (c : Setup σ) (pace : Pace σ) (moves : List Move) (g : Chronicle σ) : Chronicle σ :=
  moves.foldl (fun d m => d.move c pace m) g

/-- Keeping a chronicle changes nothing. -/
theorem service_play (c : Setup σ) (pace : Pace σ) (moves : List Move) (g : Chronicle σ) :
    (g.play c pace moves).service = g.service.play c pace moves := by
  induction moves generalizing g with
  | nil => rfl
  | cons m rest ih => exact ih (g.move c pace m)

/-- What a move of a service can be. -/
inductive Turn (c : Setup σ) (pace : Pace σ) (g g' : Chronicle σ) : Prop where
  /-- It is aside from the queue. -/
  | aside (queue : g.service.queue.Aside g'.service.queue) (history : g'.history = g.history)
      (posted : g'.posted = g.posted) (talks : g'.talks = g.talks)
  /-- It submits a transaction. -/
  | submits {chain : ChainId} {raw : Bytes} {h : List (Nat × Queue.Happening)}
      (connected : (g.service.fleet.provider? chain).isSome)
      (queue : g'.service.queue = g.service.queue.enqueue c.queue.places (.relay chain raw))
      (step : Queue.Step (c.paced pace) g.service.queue h g'.service.queue)
      (history : g'.history = h ++ g.history)
      (posted : g'.posted = (g.service.queue.asked, chain, raw) :: g.posted)
      (talks : g'.talks = g.talks)
  /-- The queue takes a step. -/
  | works {m : Queue.Move} {h : List (Nat × Queue.Happening)} (served : m.served = true)
      (queue : g'.service.queue = g.service.queue.move (c.paced pace) m)
      (step : Queue.Step (c.paced pace) g.service.queue h g'.service.queue)
      (history : g'.history = h ++ g.history) (posted : g'.posted = g.posted)
      (talks : g'.talks = said c.endpoints g.service.queue g'.service.queue ++ g.talks)

section Turns

variable {c : Setup σ} {pace : Pace σ} {g : Chronicle σ} {s t : Queue.State (Network σ)}

-- Without an act nothing was said.
theorem said_of_acts (endpoints : Endpoints σ) (acts : t.outside.acts = s.outside.acts) :
    said endpoints s t = [] := by
  have none : Queue.newest t.outside.acts s.outside.acts = [] := by
    rw [acts]
    exact Queue.newest_append [] _
  unfold said
  split
  · rfl
  · rw [none]
    rfl

-- What is aside from the queue is no part of its history.
theorem entries_aside (aside : s.Aside t) : Queue.State.entries none s t = [] := by
  obtain ⟨o, rfl, acts, -⟩ := aside
  exact Queue.Step.entries_told (e := []) rfl acts rfl rfl

-- A move that is aside from the queue.
theorem turn_aside {m : Move} (aside : g.service.queue.Aside (g.service.move c pace m).queue)
    (deed : g.service.deedOf? c pace m = none) (submits : g.service.submitted? m = none) :
    Turn c pace g (g.move c pace m) := by
  refine .aside aside ?_ ?_ ?_
  · unfold move
    dsimp only
    rw [deed, entries_aside aside]
    rfl
  · unfold move
    rw [submits]
    rfl
  · obtain ⟨o, same, acts, -⟩ := aside
    unfold move
    dsimp only
    rw [said_of_acts c.endpoints (by rw [same]; exact acts)]
    rfl

-- A request that submits a transaction.
theorem turn_submits (k : g.service.Keeps) {r : Request} {chain : ChainId} {raw : Bytes}
    (submits : r.Submits g.service.fleet chain raw) :
    Turn c pace g (g.move c pace (.request r)) := by
  have taken := Request.submission?_eq_some.mpr submits
  have queue : (g.service.move c pace (.request r)).queue =
      g.service.queue.enqueue c.queue.places (.relay chain raw) := by
    simp only [Service.move, Service.take, taken]
  obtain ⟨counts, -, -, acts, -⟩ :=
    Queue.State.frame_enqueue c.queue.places (.relay chain raw) g.service.queue
  obtain ⟨same, -⟩ | step := Queue.Step.of_enqueue (q := c.paced pace) (.relay chain raw) k.held
  · -- A caller who asks is counted.
    have still := congrArg Queue.State.asked same
    exact absurd (counts.symm.trans still) (Nat.succ_ne_self _)
  · refine .submits submits.connected queue (queue.symm ▸ step) rfl ?_ ?_
    · unfold move Service.submitted?
      dsimp only
      rw [taken]
      rfl
    · unfold move
      dsimp only
      rw [said_of_acts c.endpoints (by rw [queue, acts])]
      rfl

/-- A move is a turn. -/
theorem move_turn (k : g.service.Keeps) (m : Move) : Turn c pace g (g.move c pace m) := by
  cases m with
  | probe => exact turn_aside g.service.aside_probe rfl rfl
  | request r =>
    cases submits : r.submission? g.service.fleet with
    | none =>
      exact turn_aside (g.service.aside_take submits) rfl (by simp [Service.submitted?, submits])
    | some x => exact turn_submits k (Request.submission?_eq_some.mp submits)
  | queue m =>
    have still (same : (g.service.move c pace (.queue m)).queue = g.service.queue)
        (deed : g.service.deedOf? c pace (.queue m) = none) :
        Turn c pace g (g.move c pace (.queue m)) :=
      turn_aside (by rw [same]; exact .refl _) deed rfl
    by_cases served : m.served = true
    · have queue : (g.service.move c pace (.queue m)).queue =
          g.service.queue.move (c.paced pace) m := by
        simp only [Service.move, served, if_true]
      have deed : g.service.deedOf? c pace (.queue m) =
          g.service.queue.deedOf? (c.paced pace) m := if_pos served
      obtain ⟨same, nothing⟩ | step := Queue.Step.of_move (c.paced pace) m g.service.queue
      · exact still (queue.trans same) (deed.trans nothing)
      · refine .works served queue (queue.symm ▸ step) ?_ rfl rfl
        unfold move
        dsimp only
        rw [queue, deed]
    · refine still ?_ ?_
      · simp only [Service.move, served]
        rfl
      · simp only [Service.deedOf?, served]
        rfl

/-- What every turn keeps, a run keeps. -/
theorem turn_induction (c : Setup σ) (pace : Pace σ) {P : Chronicle σ → Prop}
    (keeps : ∀ g g', g.service.Keeps → Turn c pace g g' → P g → P g') (moves : List Move)
    (g : Chronicle σ) (k : g.service.Keeps) (start : P g) : P (g.play c pace moves) := by
  induction moves generalizing g with
  | nil => exact start
  | cons m rest ih =>
    exact ih (g.move c pace m) (k.move m) (keeps g _ k (move_turn k m) start)

end Turns

end Chronicle

end Api

end TxRelay
