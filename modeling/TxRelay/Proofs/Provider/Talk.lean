import Mathlib.Data.List.Chain
import TxRelay.Fleet
import TxRelay.Proofs.Provider.Overlap

/-!
# What Is Said in a Call

A session keeps the requests that were sent. It does not keep the replies, and
statements about a call speak of them: that it was handed on only by endpoints
that were of no use, and that it ended with what the last endpoint said.

`Session.talk` is the list of all requests of a call with their replies, read off
the same endpoints in the same order as the call goes through them. `Talk` says
which lists those can be. It has one constructor for each way in which a call
hears from an endpoint, and everything that later proofs need of a call is an
induction over it.

## Main definitions

* `Provider.Exchange`: A request and what came back.
* `Provider.Talk`: The exchanges of a call, how it ends and what it leaves.
* `Provider.Session.talk`, `Network.talk`: The exchanges of a call.

## Theorems

* `Provider.Session.walkFrom_last`, `Provider.Session.walkFrom_next`: One try of a
  call.
* `Provider.Session.walk_talk`: A call says what it says.
* `Provider.Talk.length_le`, `circle`, `ending`: How the exchanges of a call
  follow each other, and how the last one ends it.
* `Network.on_spec`: What a call does to a network.
-/

namespace TxRelay

namespace Provider

/-- A request that was sent, and what came back. -/
structure Exchange where
  /-- The request, and where to. -/
  made : Try
  /-- What came back. -/
  reply : Rpc.Reply

/-- The first request of a call, and what came back. -/
def exchange (p : Provider) (request : Rpc.Request) (reply : Rpc.Reply) : Exchange :=
  ⟨⟨p.chain, p.active, request⟩, reply⟩

/-- How a call ends that is not handed on. -/
def Verdict.ending {α : Type} : Verdict α → Ending α
  | .value a => .value a
  | .refused r => .refused r
  | .failed => .exhausted

variable {σ α : Type} {request : Rpc.Request} {read : Json.Value → Option α}

namespace Exchange

/-- What an exchange comes to. -/
def verdict (read : Json.Value → Option α) (x : Exchange) : Verdict α :=
  .ofReply read x.reply

/-- The endpoint was of no use. -/
def Failed (read : Json.Value → Option α) (x : Exchange) : Prop :=
  x.verdict read = .failed

/-- A call hands its request on from one endpoint, of so many, to the next. -/
def HandsOn (read : Json.Value → Option α) (n : Nat) (x y : Exchange) : Prop :=
  x.Failed read ∧ y.made.target = (x.made.target + 1) % n

end Exchange

/-- The exchanges of a call of a provider with so many tries behind the next,
    how the call ends and the provider that it leaves. -/
inductive Talk (request : Rpc.Request) (read : Json.Value → Option α) :
    Provider → Nat → List Exchange → Ending α → Provider → Prop where
  /-- The endpoint ends the call, or it was the last one. -/
  | last {p : Provider} {left : Nat} {reply : Rpc.Reply}
      (ends : left = 0 ∨ ¬(p.exchange request reply).Failed read) :
      Talk request read p left [p.exchange request reply]
        ((p.exchange request reply).verdict read).ending p
  /-- The endpoint is of no use, and the call is handed on. -/
  | next {p t : Provider} {left : Nat} {reply : Rpc.Reply} {xs : List Exchange} {e : Ending α}
      (failed : (p.exchange request reply).Failed read)
      (rest : Talk request read p.failover left xs e t) :
      Talk request read p (left + 1) (p.exchange request reply :: xs) e t

namespace Talk

variable {p t : Provider} {left : Nat} {xs : List Exchange} {e : Ending α}

theorem ne_nil (talk : Talk request read p left xs e t) : xs ≠ [] := by
  cases talk <;> exact List.cons_ne_nil _ _

/-- A call makes no more tries than it has. -/
theorem length_le (talk : Talk request read p left xs e t) : xs.length ≤ left + 1 := by
  induction talk with
  | last ends => simp
  | next failed rest ih => simpa using ih

-- A call stays with its chain, and leaves the endpoints as they are.
theorem frame (talk : Talk request read p left xs e t) :
    t.chain = p.chain ∧ t.urls = p.urls := by
  induction talk with
  | last ends => exact ⟨rfl, rfl⟩
  | next failed rest ih => exact ih

/-- All tries of a call carry one request to one chain. -/
theorem made (talk : Talk request read p left xs e t) :
    ∀ x ∈ xs, x.made.chain = p.chain ∧ x.made.request = request := by
  induction talk with
  | last ends => simp [exchange]
  | next failed rest ih =>
    intro x mem
    obtain rfl | mem := List.mem_cons.mp mem
    · exact ⟨rfl, rfl⟩
    · exact ih x mem

/-- A call begins at the active endpoint. -/
theorem head (talk : Talk request read p left xs e t) :
    ∃ x rest, xs = x :: rest ∧ x.made.target = p.active := by
  cases talk <;> exact ⟨_, _, rfl, rfl⟩

/-- A call goes around the circle, and only endpoints that are of no use hand it
    on. -/
theorem circle (talk : Talk request read p left xs e t) :
    xs.IsChain (Exchange.HandsOn read p.urls.length) := by
  induction talk with
  | last ends => exact List.isChain_singleton _
  | next failed rest ih =>
    obtain ⟨y, ys, rfl, here⟩ := rest.head
    refine List.isChain_cons_cons.mpr ⟨⟨failed, ?_⟩, ih⟩
    rw [here, failover_active]
    rfl

/-- A call ends with what the last endpoint said, which stays active, and those
    before were of no use. It gives up only when no tries are left. -/
theorem ending (talk : Talk request read p left xs e t) :
    ∃ before x, xs = before ++ [x] ∧ (∀ y ∈ before, y.Failed read) ∧
      e = (x.verdict read).ending ∧ t.active = x.made.target ∧
      (x.Failed read → xs.length = left + 1) := by
  induction talk with
  | last ends =>
    refine ⟨[], _, rfl, by simp, rfl, rfl, fun failed => ?_⟩
    obtain rfl | answered := ends
    · rfl
    · exact absurd failed answered
  | @next p t left reply xs e failed rest ih =>
    obtain ⟨before, x, rfl, useless, ends, active, spent⟩ := ih
    refine ⟨p.exchange request reply :: before, x, rfl, ?_, ends, active, fun failed => ?_⟩
    · intro y mem
      obtain rfl | mem := List.mem_cons.mp mem
      · exact failed
      · exact useless y mem
    · simpa using spent failed

end Talk

namespace Session

variable (endpoints : Endpoints σ) (request : Rpc.Request) (read : Json.Value → Option α)

/-- The exchanges of a call with so many tries behind the next, the first one
    first. -/
def talkFrom : Nat → Session σ → List Exchange
  | left, s =>
    let r := s.ask endpoints request
    let x := s.provider.exchange request r.1
    match x.verdict read, left with
    | .failed, rest + 1 => x :: talkFrom rest { r.2 with provider := s.provider.failover }
    | _, _ => [x]

/-- The exchanges of a call alone. -/
def talk (s : Session σ) : List Exchange :=
  s.talkFrom endpoints request read s.provider.begin.left

variable {endpoints request read} {s : Session σ} {left : Nat}

-- A call that is not handed on ends with what its endpoint said.
theorem walkFrom_last
    (last : left = 0 ∨ Verdict.ofReply read (s.ask endpoints request).1 ≠ .failed) :
    s.walkFrom endpoints request read left =
      ((Verdict.ofReply read (s.ask endpoints request).1).ending, (s.ask endpoints request).2) := by
  rw [walkFrom.eq_def]
  dsimp only
  cases verdict : Verdict.ofReply read (s.ask endpoints request).1 with
  | value a => rfl
  | refused r => rfl
  | failed =>
    obtain rfl | answered := last
    · rfl
    · exact absurd verdict answered

theorem talkFrom_last
    (last : left = 0 ∨ Verdict.ofReply read (s.ask endpoints request).1 ≠ .failed) :
    s.talkFrom endpoints request read left =
      [s.provider.exchange request (s.ask endpoints request).1] := by
  rw [talkFrom.eq_def]
  dsimp only [Exchange.verdict, exchange]
  cases verdict : Verdict.ofReply read (s.ask endpoints request).1 with
  | value a => rfl
  | refused r => rfl
  | failed =>
    obtain rfl | answered := last
    · rfl
    · exact absurd verdict answered

-- A call that is handed on goes on at the next endpoint.
theorem walkFrom_next (failed : Verdict.ofReply read (s.ask endpoints request).1 = .failed) :
    s.walkFrom endpoints request read (left + 1) =
      walkFrom endpoints request read left
        { (s.ask endpoints request).2 with provider := s.provider.failover } := by
  rw [walkFrom]
  simp only [failed, hear]
  rfl

theorem talkFrom_next (failed : Verdict.ofReply read (s.ask endpoints request).1 = .failed) :
    s.talkFrom endpoints request read (left + 1) =
      s.provider.exchange request (s.ask endpoints request).1 ::
        talkFrom endpoints request read left
          { (s.ask endpoints request).2 with provider := s.provider.failover } := by
  rw [talkFrom]
  simp only [Exchange.verdict, exchange, failed]

variable (endpoints request read)

-- By induction on the tries that are left, along with the call itself.
theorem walkFrom_talk (left : Nat) : ∀ s : Session σ,
    Talk request read s.provider left (s.talkFrom endpoints request read left)
      (s.walkFrom endpoints request read left).1
      (s.walkFrom endpoints request read left).2.provider ∧
    (s.walkFrom endpoints request read left).2.tries =
      ((s.talkFrom endpoints request read left).map Exchange.made).reverse ++ s.tries := by
  induction left with
  | zero =>
    intro s
    rw [walkFrom_last (Or.inl rfl), talkFrom_last (Or.inl rfl)]
    exact ⟨.last (Or.inl rfl), rfl⟩
  | succ left ih =>
    intro s
    by_cases failed : Verdict.ofReply read (s.ask endpoints request).1 = .failed
    · obtain ⟨talk, tries⟩ := ih { (s.ask endpoints request).2 with provider := s.provider.failover }
      rw [walkFrom_next failed, talkFrom_next failed]
      refine ⟨.next failed talk, ?_⟩
      rw [tries, List.map_cons, List.reverse_cons, List.append_assoc]
      rfl
    · rw [walkFrom_last (Or.inr failed), talkFrom_last (Or.inr failed)]
      exact ⟨.last (Or.inr failed), rfl⟩

/-- A call says what it says, and leaves its tries behind. -/
theorem walk_talk (s : Session σ) :
    Talk request read s.provider (s.provider.urls.length - 1) (s.talk endpoints request read)
      (s.walk endpoints request read).1 (s.walk endpoints request read).2.provider ∧
    (s.walk endpoints request read).2.tries =
      ((s.talk endpoints request read).map Exchange.made).reverse ++ s.tries :=
  walkFrom_talk endpoints request read _ s

end Session

end Provider

namespace Fleet

-- The provider of a chain is one for that chain.
theorem chain_of_provider? {f : Fleet} {chain : ChainId} {p : Provider}
    (known : f.provider? chain = some p) : p.chain = chain := by
  simpa using List.find?_some known

end Fleet

namespace Network

open Provider

variable {σ α : Type} (endpoints : Endpoints σ) (chain : ChainId) (request : Rpc.Request)
  (read : Json.Value → Option α)

/-- The exchanges of a call on a chain. On a chain that is not connected nothing
    is said. -/
def talk (n : Network σ) : List Exchange :=
  match n.fleet.provider? chain with
  | none => []
  | some p => Session.talk endpoints request read ⟨p, n.world, n.tries⟩

-- What is made of the result of a call is nothing to the network.
theorem snd_transaction (hash : Hash) (n : Network σ) :
    (n.transaction endpoints chain hash).2 =
      (n.on chain (Session.transaction endpoints hash)).2 := by
  unfold transaction
  rcases n.on chain (Session.transaction endpoints hash) with ⟨_ | _, _⟩ <;> rfl

theorem snd_sendRaw (raw : Bytes) (n : Network σ) :
    (n.sendRaw endpoints chain raw).2 = (n.on chain (Session.sendRaw endpoints raw)).2 := by
  unfold sendRaw
  rcases n.on chain (Session.sendRaw endpoints raw) with ⟨_ | _, _⟩ <;> rfl

theorem snd_pendingCount (account : Address) (n : Network σ) :
    (n.pendingCount endpoints chain account).2 =
      (n.on chain (Session.pendingCount endpoints account)).2 := by
  unfold pendingCount
  rcases n.on chain (Session.pendingCount endpoints account) with ⟨_ | _, _⟩ <;> rfl

/-- What a call of one request does to a network whose chain has a provider. -/
structure Spoken (n : Network σ) (p : Provider) (xs : List Exchange) (e : Ending α)
    (m : Network σ) : Prop where
  /-- The call, and the provider of the chain after it. -/
  talk : ∃ t, Talk request read p (p.urls.length - 1) xs e t ∧ m.fleet.provider? chain = some t
  /-- Other chains keep their providers. -/
  others : ∀ other, other ≠ chain → m.fleet.provider? other = n.fleet.provider? other
  /-- The tries are kept. -/
  tries : m.tries = (xs.map Exchange.made).reverse ++ n.tries

/-- What a call of one request does to a network. -/
theorem on_spec {β : Type} (call : Session σ → β × Session σ) (report : Provider → Ending α → β)
    (asks : ∀ s : Session σ, call s =
      (report s.provider (s.walk endpoints request read).1, (s.walk endpoints request read).2))
    (n : Network σ) :
    (n.fleet.provider? chain = none ∧ n.talk endpoints chain request read = [] ∧
      n.on chain call = (.error (.chainNotFound chain), n)) ∨
    ∃ p e m, n.fleet.provider? chain = some p ∧
      Spoken chain request read n p (n.talk endpoints chain request read) e m ∧
      n.on chain call = (.ok (report p e), m) := by
  cases known : n.fleet.provider? chain with
  | none =>
    unfold talk on
    rw [known]
    exact Or.inl ⟨rfl, rfl, rfl⟩
  | some p =>
    have said : n.talk endpoints chain request read =
        Session.talk endpoints request read ⟨p, n.world, n.tries⟩ := by
      unfold talk
      rw [known]
    obtain ⟨talk, tries⟩ := Session.walk_talk endpoints request read ⟨p, n.world, n.tries⟩
    generalize walked : Session.walk endpoints request read ⟨p, n.world, n.tries⟩ = r at talk tries
    have here : r.2.provider.chain = chain := talk.frame.1.trans (Fleet.chain_of_provider? known)
    refine Or.inr ⟨p, r.1, ⟨n.fleet.put r.2.provider, r.2.world, r.2.tries⟩, rfl, ?_, ?_⟩
    · rw [said]
      refine ⟨⟨r.2.provider, talk, ?_⟩, fun other elsewhere => ?_, tries⟩
      · rw [← here]
        exact Fleet.provider?_put_self _ _
      · exact Fleet.provider?_put_other (fun same => elsewhere (same.trans here)) _
    · unfold on
      rw [known]
      dsimp only
      rw [asks, walked]

end Network

end TxRelay
