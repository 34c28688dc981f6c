import TxRelay.Api.Command
import TxRelay.Proofs.Broadcast.Tries
import TxRelay.Proofs.Queue.Served

/-!
# Moves of a Service

A request is taken in one step, and what follows from it happens one move at a
time: a stop may fall between two steps of the worker, and other requests may come
in while a submission is under way. What the queue asks of the chains may take any
time, so an attempt can come too late and lookups can hold each other up. A list of
moves is a run of a service under any such schedule, and runs made of commands are
runs made of moves in which nothing takes time (`Api.Service.run_eq_play`).

A service keeps its queue. It enqueues what requests hand in and nothing else,
it never gives up the handle, and nobody takes its worker away: of the moves of the
queue it makes those that are served, and any other changes nothing.

A request either submits a transaction, which is the case `Request.Submits`, or it
leaves the queue alone: `Service.aside_take` says that it touches at most the chains
and the metrics, and hands nothing over.

## Main definitions

* `Api.Request.Submits`: A request submits a transaction.
* `Api.Pace`, `Api.Setup.paced`: How long the chains take.
* `Api.Move`: One thing that happens to a service.
* `Api.Service.take`, `move`, `play`: Takes a request, and makes moves.
* `Queue.State.Aside`: Only the chains and the metrics are touched.

## Theorems

* `Api.Request.submission?_eq_some`: Which requests submit a transaction.
* `Api.Service.take_rejected`: A submission that is not taken changes nothing.
* `Api.Service.take_cases`, `aside_take`: What other requests do, and what they touch.
* `Api.Service.run_eq_play`: A run made of commands is made of moves.
-/

namespace TxRelay

/-- Looks a transaction up. The answer takes some time. -/
def Network.lookupAfter {σ : Type} (endpoints : Provider.Endpoints σ)
    (delay : ChainId → Hash → Network σ → Nat) : Lookup (Network σ) := fun chain hash n =>
  let r := n.transaction endpoints chain hash
  (delayed (delay chain hash n) (r.1.map Rpc.ChainTransaction.pending), r.2)

-- Endpoints that answer at once are a case of this.
theorem Network.lookup_eq {σ : Type} (endpoints : Provider.Endpoints σ) :
    lookup endpoints = lookupAfter endpoints fun _ _ _ => 0 := by
  funext chain hash n
  unfold lookup lookupAfter
  cases (n.transaction endpoints chain hash).1 <;> rfl

/-- Only the chains and the metrics are touched. Nothing is handed over, and no chain
    is lost. -/
def Queue.State.Aside {σ : Type} (s t : Queue.State (Network σ)) : Prop :=
  ∃ o, t = { s with outside := o } ∧ o.acts = s.outside.acts ∧
    Network.Calm s.outside.world o.world

namespace Queue.State.Aside

variable {σ : Type}

theorem refl (s : Queue.State (Network σ)) : Aside s s :=
  ⟨s.outside, rfl, rfl, .refl _⟩

end Queue.State.Aside

namespace Api

/-- What an answer says about the outcome: whether it is unknown. An answer that says
    nothing about it knows it. -/
def Answer.unknownOutcome (a : Answer) : Bool :=
  match a.body.bind (·.field? "unknown_outcome") with
  | some (.bool unknown) => unknown
  | _ => false

@[simp]
theorem Answer.unknownOutcome_bare (status : Nat) : (Answer.bare status).unknownOutcome = false :=
  rfl

@[simp]
theorem Answer.unknownOutcome_ofFailure (f : Failure) :
    (Answer.ofFailure f).unknownOutcome = f.outcomeUnknown :=
  rfl

namespace Request

/-- A request goes to where transactions are submitted. -/
def Posts (r : Request) : Prop :=
  r.method = "POST" ∧ Resource.ofPath? r.path = some .transactions

/-- A request submits a transaction to a chain of a fleet: its body is JSON that names
    the chain and the bytes, and the chain is connected. -/
structure Submits (f : Fleet) (r : Request) (chain : ChainId) (raw : Bytes) : Prop where
  /-- It goes to the right place. -/
  posts : r.Posts
  /-- Its body is said to be JSON. -/
  json : r.mediaType.any isJson = true
  /-- Its body names the chain and the bytes. -/
  body : ∃ text, Body.read "raw_transaction" r.body = .ok ⟨chain, text⟩ ∧ readRaw text = .ok raw
  /-- The chain is connected. -/
  connected : (f.provider? chain).isSome

/-- The transaction that a request submits. -/
def submission? (f : Fleet) (r : Request) : Option (ChainId × Bytes) :=
  if r.method = "POST" ∧ Resource.ofPath? r.path = some .transactions ∧
      r.mediaType.any isJson = true then
    match Body.read "raw_transaction" r.body with
    | .ok b =>
      match readRaw b.text with
      | .ok raw => if (f.provider? b.chain).isSome then some (b.chain, raw) else none
      | .error _ => none
    | .error _ => none
  else none

/-- Which requests submit a transaction. -/
theorem submission?_eq_some {f : Fleet} {r : Request} {chain : ChainId} {raw : Bytes} :
    r.submission? f = some (chain, raw) ↔ r.Submits f chain raw := by
  unfold submission?
  constructor
  · intro submits
    split at submits
    · rename_i front
      split at submits
      · rename_i b body
        split at submits
        · rename_i raw' bytes
          split at submits
          · rename_i connected
            obtain ⟨rfl, rfl⟩ := Prod.mk.inj (Option.some.inj submits)
            exact ⟨⟨front.1, front.2.1⟩, front.2.2, ⟨b.text, body, bytes⟩, connected⟩
          · exact absurd submits (by simp)
        · exact absurd submits (by simp)
      · exact absurd submits (by simp)
    · exact absurd submits (by simp)
  · rintro ⟨⟨method, path⟩, json, ⟨text, body, bytes⟩, connected⟩
    rw [if_pos ⟨method, path, json⟩, body]
    dsimp only
    rw [bytes]
    dsimp only
    rw [if_pos connected]

end Request

/-- How long the chains take for what the queue asks of them. -/
structure Pace (σ : Type) where
  /-- To answer an attempt. -/
  attempt : ChainId → Bytes → Network σ → Nat
  /-- To answer a lookup. -/
  lookup : ChainId → Hash → Network σ → Nat

/-- Chains that answer at once. -/
def Pace.prompt {σ : Type} : Pace σ :=
  ⟨fun _ _ _ => 0, fun _ _ _ => 0⟩

/-- What the queue is made for, when the chains take their time. -/
def Setup.paced {σ : Type} (c : Setup σ) (pace : Pace σ) : Queue.Setup (Network σ) :=
  { c.queue with
    lookup := Network.lookupAfter c.endpoints pace.lookup
    broadcast := Network.broadcastAfter c.endpoints pace.attempt }

theorem Setup.paced_prompt {σ : Type} (c : Setup σ) : c.paced .prompt = c.queue := by
  unfold paced queue Pace.prompt
  rw [Network.lookup_eq, Network.broadcast_eq]

/-- One thing that happens to a service, without what follows from it. -/
inductive Move where
  /-- A request comes in. -/
  | request (r : Request)
  /-- The chains are asked whether they can be reached. -/
  | probe
  /-- Something happens to the queue. -/
  | queue (m : Queue.Move)

/-- Whether a command is given to a service. -/
def Command.served : Command → Bool
  | .queue (.enqueue _) | .queue .lose | .queue .dropHandle => false
  | _ => true

namespace Service

variable {σ : Type} {c : Setup σ} {pace : Pace σ} {s : Service σ} {r : Request}

/-- Takes a request, without what follows from it. -/
def take (c : Setup σ) (r : Request) (s : Service σ) : Reaction × Service σ :=
  match r.submission? s.fleet with
  | some (chain, raw) =>
    (.later s.queue.asked,
      { s with queue := s.queue.enqueue c.queue.places (.relay chain raw) })
  | none => s.handle c r

/-- Makes a move. A move that a service does not make changes nothing. -/
def move (c : Setup σ) (pace : Pace σ) (m : Move) (s : Service σ) : Service σ :=
  match m with
  | .request r => (s.take c r).2
  | .probe => (s.probe c).2
  | .queue m => if m.served then { s with queue := s.queue.move (c.paced pace) m } else s

/-- Makes several moves in order. -/
def play (c : Setup σ) (pace : Pace σ) (moves : List Move) (s : Service σ) : Service σ :=
  moves.foldl (fun t m => t.move c pace m) s

/-- A run goes on where the one before it ended. -/
theorem play_append (c : Setup σ) (pace : Pace σ) (first second : List Move) (s : Service σ) :
    s.play c pace (first ++ second) = (s.play c pace first).play c pace second :=
  List.foldl_append

-- A request that goes to where transactions are submitted is visited there.
theorem handle_posts (posts : r.Posts) :
    s.handle c r = s.withBody "raw_transaction" r fun b => s.submit c b := by
  obtain ⟨method, path⟩ := posts
  unfold handle
  rw [if_neg (by rw [method]; decide), path]
  simp only [method, Resource.allows, beq_self_eq_true, if_true, visit]
  rcases s.withBody "raw_transaction" r fun b => s.submit c b with ⟨a | n | text, t⟩ <;> rfl

/-- What comes of a request that submits a transaction. -/
theorem handle_submission {chain : ChainId} {raw : Bytes} (submits : r.Submits s.fleet chain raw) :
    s.handle c r = (.later s.queue.asked,
      { s with
        queue := (s.queue.enqueue c.queue.places (.relay chain raw)).settle c.queue }) := by
  obtain ⟨text, body, bytes⟩ := submits.body
  obtain ⟨p, known⟩ := Option.isSome_iff_exists.mp submits.connected
  rw [handle_posts submits.posts, withBody, if_pos submits.json, body]
  simp only [submit, bytes, known]

/-- A request to submit a transaction that submits none is answered at once, with a
    status that says that the request is at fault, and changes nothing. -/
theorem take_rejected (posts : r.Posts) (none : r.submission? s.fleet = none) :
    ∃ a, s.take c r = (.now a, s) ∧
      (a.status = 400 ∨ a.status = 404 ∨ a.status = 413 ∨ a.status = 415 ∨ a.status = 422) ∧
      a.unknownOutcome = false := by
  have rejected {chain : ChainId} {raw : Bytes} : ¬r.Submits s.fleet chain raw := fun submits => by
    rw [Request.submission?_eq_some.mpr submits] at none
    exact absurd none (by simp)
  unfold take
  rw [none]
  dsimp only
  rw [handle_posts posts, withBody]
  by_cases json : r.mediaType.any isJson = true
  · rw [if_pos json]
    cases body : Body.read "raw_transaction" r.body with
    | error fault => cases fault <;> exact ⟨_, rfl, by simp [Answer.bare], rfl⟩
    | ok b =>
      dsimp only
      unfold submit
      cases bytes : readRaw b.text with
      | error f =>
        -- Bytes that cannot be read make no sense, whatever is wrong with them.
        have nonsense : ∃ message, f = .invalidRequest message := by
          unfold readRaw at bytes
          split at bytes
          · exact ⟨_, (Except.error.inj bytes).symm⟩
          · exact ⟨_, (Except.error.inj bytes).symm⟩
          · exact absurd bytes (by simp)
        obtain ⟨message, rfl⟩ := nonsense
        exact ⟨_, rfl, Or.inl rfl, rfl⟩
      | ok raw =>
        dsimp only
        cases known : s.fleet.provider? b.chain with
        | none => exact ⟨_, rfl, Or.inr (Or.inl rfl), rfl⟩
        | some p => exact absurd ⟨posts, json, ⟨b.text, body, bytes⟩, by simp [known]⟩ rejected
  · rw [if_neg json]
    exact ⟨_, rfl, by simp [Answer.bare], rfl⟩

-- A nonce is allocated aside from the queue.
theorem aside_allocate (chain : ChainId) (account : Address) (t : Nonce.Table) (s : Service σ) :
    s.queue.Aside (s.allocate c chain account t).2.queue := by
  unfold allocate
  dsimp only
  cases t.get? account with
  | some n => exact ⟨_, rfl, rfl, .refl _⟩
  | none => exact ⟨_, rfl, rfl, Network.calm_pendingCount c.endpoints chain account _⟩

theorem aside_probe (s : Service σ) : s.queue.Aside (s.probe c).2.queue := by
  obtain ⟨calm, acts⟩ := Network.calm_probe c.endpoints (c.order.arrange s.fleet.connected)
    s.queue.outside
  exact ⟨_, rfl, acts, calm⟩

-- What is asked for is nothing of the queue: the chains are probed, or one of them is asked
-- for a nonce.
theorem visit_cases {resource : Resource} (other : resource ≠ .transactions) :
    (s.visit c resource r).2.queue = s.queue ∨
      (s.visit c resource r).2.queue = (s.probe c).2.queue ∨
      ∃ chain account t, (s.visit c resource r).2.queue = (s.allocate c chain account t).2.queue := by
  cases resource with
  | health | status => exact Or.inl rfl
  | ready => exact Or.inr (Or.inl rfl)
  | transactions => exact absurd rfl other
  | nonce chain account =>
    refine Or.inl ?_
    unfold visit forgetNonce
    dsimp only
    repeat' split
    all_goals rfl
  | nonces =>
    unfold visit withBody takeNonce
    dsimp only
    repeat' split
    all_goals first
      | exact Or.inl rfl
      | exact Or.inr (Or.inr ⟨_, _, _, rfl⟩)

/-- A request that submits no transaction leaves the queue alone, or asks something of the
    chains. -/
theorem take_cases (none : r.submission? s.fleet = none) :
    (s.take c r).2.queue = s.queue ∨ (s.take c r).2.queue = (s.probe c).2.queue ∨
      ∃ chain account t, (s.take c r).2.queue = (s.allocate c chain account t).2.queue := by
  by_cases posts : r.Posts
  · obtain ⟨a, same, -⟩ := take_rejected (c := c) posts none
    rw [same]
    exact Or.inl rfl
  unfold take
  rw [none]
  dsimp only
  unfold handle
  split
  · exact Or.inl rfl
  · cases path : Resource.ofPath? r.path with
    | none => exact Or.inl rfl
    | some resource =>
      dsimp only
      split
      · rename_i allowed
        have other : resource ≠ .transactions := by
          rintro rfl
          exact posts ⟨by simpa [Resource.allows] using allowed, path⟩
        have cases := visit_cases (c := c) (s := s) (r := r) other
        rcases visited : s.visit c resource r with ⟨a | n | text, t⟩ <;>
          · rw [visited] at cases
            exact cases
      · exact Or.inl rfl

/-- A request that submits no transaction touches nothing but the chains and the
    metrics, and hands nothing over. -/
theorem aside_take (none : r.submission? s.fleet = none) :
    s.queue.Aside (s.take c r).2.queue := by
  rcases take_cases (c := c) none with same | same | ⟨chain, account, t, same⟩
  · exact same ▸ .refl _
  · exact same ▸ s.aside_probe
  · exact same ▸ s.aside_allocate chain account t

section Runs

/-- The queue is in order, and the service holds it. -/
structure Keeps (s : Service σ) : Prop where
  /-- The queue is in order. -/
  orderly : Queue.Orderly s.queue
  /-- The service holds it. -/
  held : s.queue.held = true

theorem Keeps.fresh (f : Fleet) (world : σ) (untracked : List ChainId) :
    Keeps (Service.fresh f world untracked) :=
  ⟨Queue.Orderly.fresh _, rfl⟩

-- What is aside from the queue leaves it as it is.
theorem Keeps.aside (k : Keeps s) {t : Service σ} (aside : s.queue.Aside t.queue) : Keeps t := by
  obtain ⟨o, same, -, -⟩ := aside
  obtain ⟨orderly, held⟩ := k
  unfold Queue.State.held at held
  refine ⟨?_, ?_⟩
  · rw [same]
    exact ⟨orderly.placed, orderly.closed, orderly.gone, orderly.stopped, orderly.running⟩
  · rw [same]
    exact held

-- A submission is a caller who asks the queue.
theorem enqueue_eq_move (pace : Pace σ) (k : Keeps s) (send : Queue.Send) :
    s.queue.enqueue c.queue.places send = s.queue.move (c.paced pace) (.call (.enqueue send)) :=
  (if_pos k.held).symm

/-- Every move keeps the queue. -/
theorem Keeps.move (k : Keeps s) (m : Move) : Keeps (s.move c pace m) := by
  cases m with
  | probe => exact k.aside s.aside_probe
  | queue m =>
    unfold Service.move
    by_cases served : m.served = true
    · simp only [served, if_true]
      exact ⟨Queue.State.orderly_play _ [m] k.orderly,
        (Queue.State.frame_move served).2.trans k.held⟩
    · simp only [served]
      exact k
  | request r =>
    unfold Service.move
    cases submits : r.submission? s.fleet with
    | none => exact k.aside (s.aside_take submits)
    | some x =>
      obtain ⟨chain, raw⟩ := x
      simp only [take, submits]
      refine ⟨?_, (Queue.State.frame_enqueue _ _ s.queue).2.1.trans k.held⟩
      dsimp only
      rw [enqueue_eq_move .prompt k]
      exact Queue.State.orderly_play _ [.call (.enqueue (.relay chain raw))] k.orderly

-- Every run keeps the queue.
theorem Keeps.play (k : Keeps s) (moves : List Move) : Keeps (s.play c pace moves) := by
  induction moves generalizing s with
  | nil => exact k
  | cons m rest ih => exact ih (k.move m)

-- Moves of the queue that are served.
theorem play_queue {moves : List Queue.Move} (served : ∀ m ∈ moves, m.served = true)
    (s : Service σ) :
    s.play c pace (moves.map .queue) =
      { s with queue := s.queue.play (c.paced pace) moves } := by
  induction moves generalizing s with
  | nil => rfl
  | cons m rest ih =>
    show (s.move c pace (.queue m)).play c pace (rest.map .queue) = _
    have first : s.move c pace (.queue m) = { s with queue := s.queue.move (c.paced pace) m } :=
      if_pos (served m List.mem_cons_self)
    rw [first, ih fun n mem => served n (List.mem_cons_of_mem m mem)]
    rfl

-- Moves of the queue that happen without a call are served.
theorem served_of_alone {m : Queue.Move} (alone : m.alone = true) : m.served = true := by
  cases m with
  | call c => cases c <;> first | rfl | exact absurd alone (by simp [Queue.Move.alone])
  | work => rfl
  | store => rfl

-- A command is a run made of moves.
theorem perform_eq_play {command : Command} (served : command.served = true) (k : Keeps s) :
    ∃ moves, s.perform c command = s.play c .prompt moves := by
  cases command with
  | probe => exact ⟨[.probe], rfl⟩
  | queue command =>
    obtain ⟨moves, known, -, same⟩ := Queue.State.perform_timely (q := c.queue) command k.orderly
    refine ⟨moves.map .queue, ?_⟩
    rw [play_queue ?_, c.paced_prompt]
    · show { s with queue := s.queue.perform c.queue command } = _
      rw [same]
    · intro m mem
      obtain rfl | alone := known m mem
      · cases command <;> first | rfl | exact absurd served (by simp [Command.served])
      · exact served_of_alone alone
  | request r =>
    cases submits : r.submission? s.fleet with
    | none =>
      refine ⟨[.request r], ?_⟩
      show (s.handle c r).2 = (s.take c r).2
      simp only [take, submits]
    | some x =>
      obtain ⟨chain, raw⟩ := x
      have orderly := (k.move (.request r) : Keeps (s.move c .prompt (.request r))).orderly
      simp only [move, take, submits] at orderly
      obtain ⟨⟨moves, alone, -, same⟩, -⟩ := Queue.State.runTo_timely (q := c.queue) orderly
        (Nat.le_refl _)
      refine ⟨.request r :: moves.map .queue, ?_⟩
      show (s.handle c r).2 = ((s.take c r).2).play c .prompt (moves.map .queue)
      rw [play_queue fun m mem => served_of_alone (alone m mem), c.paced_prompt]
      rw [handle_submission (Request.submission?_eq_some.mp submits)]
      simp only [take, submits, Queue.State.settle]
      rw [same]

/-- A run made of commands is made of moves. -/
theorem run_eq_play {commands : List Command} (served : ∀ command ∈ commands, command.served = true)
    (k : Keeps s) : ∃ moves, s.run c commands = s.play c .prompt moves := by
  induction commands generalizing s with
  | nil => exact ⟨[], rfl⟩
  | cons command rest ih =>
    obtain ⟨moves, first⟩ := perform_eq_play (c := c) (served command List.mem_cons_self) k
    have keeps : Keeps (s.perform c command) := by
      rw [first]
      exact k.play moves
    obtain ⟨more, others⟩ := ih (fun d mem => served d (List.mem_cons_of_mem command mem)) keeps
    refine ⟨moves ++ more, ?_⟩
    rw [play_append, ← first]
    exact others

end Runs

end Service

end Api

end TxRelay
