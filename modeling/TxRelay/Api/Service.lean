import TxRelay.Api.Answer
import TxRelay.Api.Body
import TxRelay.Api.MediaType
import TxRelay.Api.Route
import TxRelay.Fleet
import TxRelay.Nonce.Table
import TxRelay.Queue.Run
import TxRelay.Submission.Id
import TxRelay.Text.Quoted

/-!
# The Service

The interface for callers: health, readiness and status, nonces, and the
submission of signed transactions. A request is answered at once, except that
the submission of a transaction is answered when the queue answers it.

What a request holds is checked in a fixed order before anything is done: the
path, the method, the kind of the body, the body, and then its parts. Endpoints
answer at once, so calls for nonces never overlap, and the table of a chain is
enough.

## Main definitions

* `Api.readAccount`, `Api.readRaw`: The parts of a request.
* `Api.Request`, `Api.Reaction`: What is asked, and what comes of it.
* `Api.Setup`, `Api.Service`: What a service is made for, and its state.
* `Api.Service.handle`: Takes a request.
* `Api.Service.answer?`: The answer to a submission.
-/

namespace TxRelay

namespace Api

/-- The version that callers are told. -/
def version : String := "0.1.0"

/-- Reads an account. -/
def readAccount (text : String) : Except Failure Address :=
  match Hex.readAddress text with
  | .ok a => .ok a
  | .error e => .error (.invalidRequest ("invalid account " ++ text ++ ": " ++ e.message))

/-- The wording of what is wrong with a signed transaction. A byte is shown as
    the character with its number. -/
def rawFault : Hex.Fault → String
  | .oddLength => "Odd number of digits"
  | .invalidByte b position =>
    "Invalid character " ++ Text.quoteChar (Char.ofNat b.toNat) ++ " at position " ++
      toString position

/-- Reads a signed transaction: hexadecimal digits, after at most one `0x`,
    and not none. -/
def readRaw (text : String) : Except Failure Bytes :=
  match Hex.decode (Hex.strip0x text.toUTF8.toList) with
  | .error e => .error (.invalidRequest ("invalid raw transaction: " ++ rawFault e))
  | .ok [] => .error (.invalidRequest "empty raw transaction")
  | .ok (b :: rest) => .ok (b :: rest)

/-- A request. -/
structure Request where
  /-- The method. -/
  method : String
  /-- The path, with the query. -/
  path : String
  /-- The kind of the body. -/
  mediaType : Option String
  /-- The body. -/
  body : String

/-- What comes of a request. -/
inductive Reaction where
  /-- It is answered. -/
  | now (a : Answer)
  /-- It is answered when the queue answers this submission. -/
  | later (ticket : Nat)
  /-- It took its task down. -/
  | crash (text : String)

/-- What a service is made for. -/
structure Setup (σ : Type) where
  /-- The endpoints. -/
  endpoints : Provider.Endpoints σ
  /-- The settings of the queue: its size and its pace. -/
  capacity : Nat
  /-- How to wait for confirmation. -/
  plan : Confirmation.Plan
  /-- How to broadcast. -/
  policy : Broadcast.Policy
  /-- When the service was started, as it is told to callers. -/
  startedAt : String
  /-- The identifier of each submission. -/
  idOf : Nat → SubmissionId
  /-- In which order chains are probed. -/
  order : Fleet.Order := .rising

namespace Setup

variable {σ : Type}

/-- What the queue is made for. -/
def queue (c : Setup σ) : Queue.Setup (Network σ) :=
  { capacity := c.capacity
    plan := c.plan
    policy := c.policy
    lookup := Network.lookup c.endpoints
    broadcast := Network.broadcast c.endpoints }

end Setup

/-- The state of a service: the queue, with the network behind it, and the
    nonces of each chain that are kept track of. -/
structure Service (σ : Type) where
  /-- The queue. -/
  queue : Queue.State (Network σ)
  /-- The last nonces, by chain. -/
  nonces : List (ChainId × Nonce.Table)

namespace Service

variable {σ : Type}

/-- A service over chains of which nothing was asked yet. Nonces are kept track
    of for all chains but some. -/
def fresh (f : Fleet) (world : σ) (untracked : List ChainId) : Service σ :=
  { queue := .fresh (.fresh ⟨f, world, []⟩)
    nonces := (f.connected.filter fun c => !untracked.contains c).map fun c => (c, []) }

/-- The fleet. -/
def fleet (s : Service σ) : Fleet := s.queue.outside.world.fleet

/-- The nonces of a chain. -/
def table? (chain : ChainId) (s : Service σ) : Option Nonce.Table :=
  List.lookup chain s.nonces

/-- Replaces the nonces of a chain. -/
def setTable (chain : ChainId) (t : Nonce.Table) (s : Service σ) : Service σ :=
  { s with nonces := s.nonces.map fun e => if e.1 = chain then (chain, t) else e }

/-- Replaces what the queue touches besides itself. -/
def withOutside (outside : Surroundings (Network σ)) (s : Service σ) : Service σ :=
  { s with queue := { s.queue with outside := outside } }

/-- Asks the chains whether they can be reached. -/
def probe (c : Setup σ) (s : Service σ) : List (ChainId × Bool) × Service σ :=
  let r := Network.probeAll c.endpoints (c.order.arrange s.fleet.connected) s.queue.outside
  (r.1, s.withOutside r.2)

/-- Whether the program runs. -/
def health : Answer :=
  .json 200 [("status", .str "ok"), ("version", .str version)]

/-- Whether the program can work. Every chain is asked, whatever the others
    said. -/
def ready (c : Setup σ) (s : Service σ) : Answer × Service σ :=
  -- All chains are asked, also when the queue is known to be closed.
  let r := s.probe c
  let lifecycle := s.queue.lifecycle
  let chains := r.1.all (·.2)
  let isReady := lifecycle = .running && chains
  let details := r.1.map fun d =>
    Json.Value.obj [("chain_id", .nat d.1.toNat), ("healthy", .bool d.2)]
  (.json (if isReady then 200 else 503)
    [("ready", .bool isReady), ("queue", .str lifecycle.name), ("chains", .bool chains),
      ("details", .arr details)],
    r.2)

/-- What the program is doing. -/
def status (c : Setup σ) (s : Service σ) : Answer :=
  .json 200
    [("version", .str version), ("started_at", .str c.startedAt),
      ("uptime_seconds", .nat (s.queue.now / 1000)),
      ("queue", .obj [("state", .str s.queue.lifecycle.name), ("depth", .nat s.queue.depth),
        ("capacity", .nat c.queue.places)]),
      ("connected_chains", .arr (s.fleet.connected.map fun n => .nat n.toNat))]

/-- Hands out the next nonce of an account. The chain is asked only if none was
    handed out before. -/
def allocate (c : Setup σ) (chain : ChainId) (account : Address) (t : Nonce.Table)
    (s : Service σ) : Nonce.Result × Service σ :=
  let outside := s.queue.outside
  match t.get? account with
  | some _ =>
    -- The chain's answer is not looked at where a nonce is known.
    let r := t.serve (.allocate account) (.failure .queueClosed)
    (r.1, (s.withOutside (outside.measure (r.1.record .cache ·))).setTable chain r.2)
  | none =>
    let q := outside.world.pendingCount c.endpoints chain account
    let r := t.serve (.allocate account) q.1
    (r.1, (s.withOutside ({ outside with world := q.2 }.measure (r.1.record .chain ·))).setTable
      chain r.2)

/-- The answer to a request for a nonce. -/
def answerNonce (chain : ChainId) (account : Address) : Nonce.Result → Reaction
  | .nonce n =>
    .now (.json 200 [("chain_id", .nat chain.toNat),
      ("account", .str (Hex.encodePrefixed account.toList)), ("nonce", .nat n.toNat)])
  | .failed f => .now (.ofFailure f)
  | .crashed text => .crash text
  | .removed _ | .tracked _ => .now (.bare 200)

/-- Takes a request for a nonce. -/
def takeNonce (c : Setup σ) (b : Body) (s : Service σ) : Reaction × Service σ :=
  match readAccount b.text with
  | .error f => (.now (.ofFailure f), s)
  | .ok account =>
    match s.table? b.chain with
    | none => (.now (.ofFailure (.chainNotFound b.chain)), s)
    | some t =>
      let r := s.allocate c b.chain account t
      (answerNonce b.chain account r.1, r.2)

/-- Forgets the last nonce of an account. -/
def forgetNonce (chain account : List Char) (s : Service σ) : Reaction × Service σ :=
  match decodeArgument? chain, decodeArgument? account with
  | some chain, some account =>
    match chainArgument? chain with
    | none => (.now (.bare 400), s)
    | some chain =>
      match readAccount account with
      | .error f => (.now (.ofFailure f), s)
      | .ok account =>
        match s.table? chain with
        | none => (.now (.ofFailure (.chainNotFound chain)), s)
        | some t =>
          let r := t.serve (.reset account) (.failure .queueClosed)
          (.now (.bare (if r.1 = .removed true then 204 else 404)), s.setTable chain r.2)
  | _, _ => (.now (.bare 400), s)

/-- Takes a signed transaction. The submission is numbered as the queue numbers
    it. -/
def submit (c : Setup σ) (b : Body) (s : Service σ) : Reaction × Service σ :=
  match readRaw b.text with
  | .error f => (.now (.ofFailure f), s)
  | .ok raw =>
    -- A chain that is not connected would fail only behind everything queued.
    match s.fleet.provider? b.chain with
    | none => (.now (.ofFailure (.chainNotFound b.chain)), s)
    | some _ =>
      let q := s.queue.enqueue c.queue.places (.relay b.chain raw)
      (.later s.queue.asked, { s with queue := q.settle c.queue })

/-- Reads the body of a request and goes on with it. -/
def withBody (textName : String) (r : Request) (s : Service σ)
    (go : Body → Reaction × Service σ) : Reaction × Service σ :=
  if r.mediaType.any isJson then
    match Body.read textName r.body with
    | .ok b => go b
    | .error .oversized => (.now (.bare 413), s)
    | .error .malformed => (.now (.bare 400), s)
    | .error .mistyped => (.now (.bare 422), s)
  else (.now (.bare 415), s)

/-- Takes a request for a resource that has the method. -/
def visit (c : Setup σ) (resource : Resource) (r : Request) (s : Service σ) :
    Reaction × Service σ :=
  match resource with
  | .health => (.now health, s)
  | .ready =>
    let a := s.ready c
    (.now a.1, a.2)
  | .status => (.now (s.status c), s)
  | .nonces => s.withBody "account" r fun b => s.takeNonce c b
  | .nonce chain account => s.forgetNonce chain account
  | .transactions => s.withBody "raw_transaction" r fun b => s.submit c b

/-- Takes a request. -/
def handle (c : Setup σ) (r : Request) (s : Service σ) : Reaction × Service σ :=
  -- Browsers ask in advance, for any path.
  if r.method = "OPTIONS" then (.now (.bare 200), s)
  else
    match Resource.ofPath? r.path with
    | none => (.now (.bare 404), s)
    | some resource =>
      if resource.allows r.method then
        match s.visit c resource r with
        | (.now a, t) => (.now (if r.method = "HEAD" then a.headOnly else a), t)
        | other => other
      else (.now (.bare 405), s)

/-- The answer to a submission. -/
def answerSubmission (id : SubmissionId) : Response → Answer
  | .submitted tx =>
    .json 200 [("submission_id", .str id.render), ("chain_id", .nat tx.chain.toNat),
      ("tx_hash", .str (Hex.encodePrefixed tx.hash.toList))]
  | .failed f => .ofFailure f

/-- What the queue told the caller of a submission at last, and when. -/
def told? (ticket : Nat) : List (Nat × Queue.Event) → Option (Nat × Response)
  | [] => none
  | (time, .rejected t) :: rest =>
    if t = ticket then some (time, .failed .queueClosed) else told? ticket rest
  | (time, .answered t r) :: rest => if t = ticket then some (time, r) else told? ticket rest
  | _ :: rest => told? ticket rest

/-- The answer to a submission, and when it was given. -/
def answer? (c : Setup σ) (ticket : Nat) (s : Service σ) : Option (Nat × Answer) :=
  (told? ticket s.queue.events).map fun r => (r.1, answerSubmission (c.idOf ticket) r.2)

end Service

end Api

end TxRelay
