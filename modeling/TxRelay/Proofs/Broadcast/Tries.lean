import TxRelay.Proofs.Broadcast.Handover

/-!
# The Tries of a Broadcast

A broadcast makes attempts, and an attempt makes tries. The two loops end for
different reasons: an attempt goes on as long as endpoints are of no use, and a
broadcast as long as the answers of its attempts leave hope. What joins them is
the active endpoint of the chain. An attempt leaves it where its last try went,
and the next one begins there, if no other call on the chain came between.

`Traced` is a broadcast that keeps the exchanges of all its attempts, and
`Traced.Reaches` lets anything happen between its steps that leaves the provider of
its chain alone: other chains are called, endpoints change their minds, metrics
are recorded. Answers take any time that does not exceed the patience of the
broadcast.

`Itinerary` is the invariant. The last exchange so far decides where the broadcast
stands (`Stands`), and nothing before it was final; so what an attempt does is
settled by its own exchanges and does not have to be related to earlier ones but
at the seam.

## Main definitions

* `Network.broadcastAfter`: Handing transactions over with delay.
* `Broadcast.Traced`: A broadcast with its exchanges.
* `Broadcast.Traced.Reaches`: What may happen to it.
* `Broadcast.Itinerary`: What holds of it throughout.

## Theorems

* `Broadcast.Itinerary.begin`, `step`, `meanwhile`: It holds throughout.
* `Broadcast.Traced.reaches_end`: A broadcast can be brought to its end.
* `Broadcast.tries_of_broadcast`: The tries of a broadcast.
* `Broadcast.tries_across_endpoints`: A broadcast on two endpoints that needs all
  of them.
-/

namespace TxRelay

open Provider

variable {σ : Type}

namespace Network

/-- A call that takes some time. -/
def delayed {α : Type} (delay : Nat) : Except Failure α → Reply α
  | .ok a => .after delay (.value a)
  | .error f => .after delay (.failure f)

/-- Hands over a transaction. The answer takes some time. -/
def broadcastAfter (endpoints : Endpoints σ) (delay : ChainId → Bytes → Network σ → Nat) :
    Broadcaster (Network σ) := fun chain raw n =>
  let r := n.sendRaw endpoints chain raw
  (delayed (delay chain raw n) r.1, r.2)

/-- Endpoints that answer at once are a case of this. -/
theorem broadcast_eq (endpoints : Endpoints σ) :
    broadcast endpoints = broadcastAfter endpoints fun _ _ _ => 0 := by
  funext chain raw n
  unfold broadcast broadcastAfter
  cases (n.sendRaw endpoints chain raw).1 <;> rfl

end Network

namespace Broadcast

/-- What an attempt answers, as a call. -/
def answerOf (r : Except Failure Hash) : Outcome Hash :=
  match r with
  | .ok hash => .value hash
  | .error f => .failure f

/-- A broadcast that waits for an answer follows what it decides, or goes on without
    it when it is late. -/
theorem Run.fire_answer {τ : Type} (send : Broadcaster τ) {r : Run} {instant deadline left : Nat}
    {answer : Except Failure Hash} (s : Surroundings τ)
    (phase : r.phase = .calling (.arriving instant (answerOf answer)) deadline left) :
    r.fire send s =
      (if instant ≤ deadline then r.decide instant left (judge r.chain r.raw answer)
        else r.decide deadline left (.again late), s) := by
  unfold Run.fire
  rw [phase]
  dsimp only
  by_cases soon : instant ≤ deadline
  · rw [if_pos soon, if_pos soon]
    cases answer <;> rfl
  · rw [if_neg soon, if_neg soon]

/-- A broadcast with the exchanges of each of its attempts, the first one
    first. -/
structure Traced (σ : Type) where
  /-- The broadcast, or how it ended. -/
  state : Outcome Submitted ⊕ Run
  /-- Chains, metrics and record. -/
  outside : Surroundings (Network σ)
  /-- The exchanges of each attempt. -/
  attempts : List (List Exchange)

/-- Surroundings that changed without a call on a chain. -/
structure Apart (chain : ChainId) (before after : Surroundings (Network σ)) : Prop where
  /-- The provider of the chain is as it was. -/
  provider : after.world.fleet.provider? chain = before.world.fleet.provider? chain
  /-- The chain was not asked anything. -/
  tries : after.world.tries.filter (·.chain == chain) =
    before.world.tries.filter (·.chain == chain)

namespace Traced

variable (endpoints : Endpoints σ) (delay : ChainId → Bytes → Network σ → Nat)

/-- Begins a broadcast. -/
def begin (policy : Policy) (now : Nat) (chain : ChainId) (raw : Bytes)
    (outside : Surroundings (Network σ)) : Traced σ :=
  let r := Run.begin (Network.broadcastAfter endpoints delay) policy now chain raw outside
  ⟨.inr r.1, r.2, [outside.world.attempt endpoints chain raw]⟩

/-- Takes the next step. Only a pause ends in an attempt. -/
def step (b : Traced σ) : Traced σ :=
  match b.state with
  | .inl _ => b
  | .inr r =>
    let f := r.fire (Network.broadcastAfter endpoints delay) b.outside
    let made := match r.phase with
      | .calling .. => []
      | .pausing .. => [b.outside.world.attempt endpoints r.chain r.raw]
    ⟨f.1, f.2, b.attempts ++ made⟩

/-- What becomes of a broadcast: it takes steps, and meanwhile other things
    happen than calls on its chain. -/
inductive Reaches (chain : ChainId) (b : Traced σ) : Traced σ → Prop where
  /-- Nothing happened yet. -/
  | refl : Reaches chain b b
  /-- It takes a step. -/
  | step {c : Traced σ} (before : Reaches chain b c) : Reaches chain b (c.step endpoints delay)
  /-- Something else happens. -/
  | meanwhile {c : Traced σ} {o : Surroundings (Network σ)} (before : Reaches chain b c)
      (apart : Apart chain c.outside o) : Reaches chain b { c with outside := o }

end Traced

/-- Where a broadcast stands after an exchange, and how many attempts it may
    still make. -/
inductive Stands (policy : Policy) (chain : ChainId) (raw : Bytes) (x : Exchange) :
    Outcome Submitted ⊕ Run → Nat → Prop where
  /-- The answer is on its way, and will be in time. -/
  | calling {instant deadline left : Nat} (soon : instant ≤ deadline) :
      Stands policy chain raw x
        (.inr ⟨chain, raw, policy,
          .calling (.arriving instant (answerOf (x.conclusion chain))) deadline left⟩) left
  /-- The answer leaves hope. -/
  | pausing {resume left : Nat} (hope : ¬x.Final raw) :
      Stands policy chain raw x (.inr ⟨chain, raw, policy, .pausing resume left⟩) (left + 1)
  /-- The transaction is with the chain. -/
  | accepted {hash : Hash} (accepted : x.Accepted raw hash) :
      Stands policy chain raw x (.inl (.value ⟨chain, hash⟩)) 0
  /-- The broadcast failed. -/
  | failed {f : Failure} (lost : ∀ hash, ¬x.Accepted raw hash) :
      Stands policy chain raw x (.inl (.failure f)) 0

/-- An attempt begins at the endpoint where the one before it ended. -/
def Resumes (xs ys : List Exchange) : Prop :=
  ∀ x ∈ xs.getLast?, ∀ y ∈ ys.head?, y.made.target = x.made.target

/-- What holds of a broadcast that began with a provider of its chain. -/
structure Itinerary (policy : Policy) (chain : ChainId) (raw : Bytes) (p : Provider)
    (old : List Try) (b : Traced σ) : Prop where
  /-- Where it stands, after which exchange, and nothing before that was
      final. -/
  stands : ∃ before x left, b.attempts.flatten = before ++ [x] ∧ (∀ y ∈ before, ¬y.Final raw) ∧
    Stands policy chain raw x b.state left ∧ b.attempts.length + left ≤ max 1 policy.attempts
  /-- The endpoint of the last try is active. -/
  active : ∃ t, b.outside.world.fleet.provider? chain = some t ∧ t.urls = p.urls ∧
    ∀ xs ∈ b.attempts.getLast?, ∀ x ∈ xs.getLast?, t.active = x.made.target
  /-- Every attempt is a call of the chain's provider. -/
  attempts : ∀ xs ∈ b.attempts, ∃ q e t, q.urls = p.urls ∧ q.chain = chain ∧
    Talk (.sendRaw raw) (Rpc.fixed? 32) q (q.urls.length - 1) xs e t
  /-- The first try went to the endpoint that was active. -/
  first : ∃ x xs rest, b.attempts = (x :: xs) :: rest ∧ x.made.target = p.active
  /-- Attempts begin where the ones before them ended. -/
  resumes : b.attempts.IsChain Resumes
  /-- The chain was asked nothing else. -/
  tries : b.outside.world.tries.filter (·.chain == chain) =
    (b.attempts.flatten.map Exchange.made).reverse ++ old

/-- What an attempt with a provider of its chain does. -/
structure Attempt (chain : ChainId) (raw : Bytes) (n : Network σ) (p : Provider)
    (xs : List Exchange) (x : Exchange) (m : Network σ) : Prop where
  /-- It is a call of the provider, which stays with the endpoint of the last
      try. -/
  talk : ∃ e t, Talk (.sendRaw raw) (Rpc.fixed? 32) p (p.urls.length - 1) xs e t ∧
    m.fleet.provider? chain = some t ∧ t.urls = p.urls ∧ t.active = x.made.target
  /-- The last try decides. -/
  last : ∃ before, xs = before ++ [x] ∧ ∀ y ∈ before, ¬y.Final raw
  /-- The chain was asked nothing else. -/
  tries : m.tries.filter (·.chain == chain) =
    (xs.map Exchange.made).reverse ++ n.tries.filter (·.chain == chain)

namespace Attempt

variable {chain : ChainId} {n : Network σ} {p : Provider} (endpoints : Endpoints σ)
  (delay : ChainId → Bytes → Network σ → Nat) (raw : Bytes)

/-- A broadcaster of a connected chain makes an attempt. -/
theorem of_broadcast (known : n.fleet.provider? chain = some p) :
    ∃ x m, Attempt chain raw n p (n.attempt endpoints chain raw) x m ∧
      Network.broadcastAfter endpoints delay chain raw n =
        (.after (delay chain raw n) (answerOf (x.conclusion chain)), m) := by
  obtain ⟨e, before, x, m, spoken, parts, open', sent⟩ := Network.sendRaw_spec endpoints chain raw known
  obtain ⟨t, talk, here⟩ := spoken.talk
  refine ⟨x, m, ⟨⟨e, t, talk, here, talk.frame.2, ?_⟩, ⟨before, parts, open'⟩, ?_⟩, ?_⟩
  · obtain ⟨before', x', parts', -, -, active, -⟩ := talk.ending
    rw [active, (List.append_inj' (parts.symm.trans parts') rfl).2 |> List.singleton_inj.mp]
  · rw [spoken.tries, List.filter_append, List.filter_eq_self.mpr]
    intro made mem
    obtain ⟨y, said, rfl⟩ := List.mem_map.mp (List.mem_reverse.mp mem)
    simp [(talk.made y said).1, Fleet.chain_of_provider? known]
  · unfold Network.broadcastAfter
    rw [sent]
    cases x.conclusion chain <;> rfl

/-- Whoever calls makes an attempt, and waits for its answer. -/
theorem of_call (policy : Policy) (phase : Phase) (now left : Nat) {o : Surroundings (Network σ)}
    (known : o.world.fleet.provider? chain = some p) :
    ∃ x m, Attempt chain raw o.world p (o.world.attempt endpoints chain raw) x m ∧
      Run.call (Network.broadcastAfter endpoints delay) now left ⟨chain, raw, policy, phase⟩ o =
        (⟨chain, raw, policy,
            .calling (.arriving (now + delay chain raw o.world) (answerOf (x.conclusion chain)))
              (now + policy.patience) left⟩,
          { o with world := m, acts := (now, .attempt chain raw) :: o.acts }) := by
  obtain ⟨x, m, attempt, sent⟩ := of_broadcast endpoints delay raw known
  refine ⟨x, m, attempt, ?_⟩
  unfold Run.call Surroundings.call
  rw [sent]
  rfl

end Attempt

-- Lists of limited length are together no longer than that many times the limit.
theorem length_flatten_le {α : Type} {n : Nat} {xss : List (List α)}
    (each : ∀ xs ∈ xss, xs.length ≤ n) : xss.flatten.length ≤ xss.length * n := by
  induction xss with
  | nil => exact Nat.zero_le _
  | cons xs rest ih =>
    have here := each xs List.mem_cons_self
    have others := ih fun ys mem => each ys (List.mem_cons_of_mem xs mem)
    rw [List.flatten_cons, List.length_append, List.length_cons, Nat.succ_mul]
    omega

namespace Itinerary

variable {policy : Policy} {chain : ChainId} {raw : Bytes} {p : Provider} {old : List Try}
  {b : Traced σ} {endpoints : Endpoints σ} {delay : ChainId → Bytes → Network σ → Nat}

-- The first attempt is made at once.
theorem begin {now : Nat} {o : Surroundings (Network σ)}
    (known : o.world.fleet.provider? chain = some p)
    (patient : ∀ n, delay chain raw n ≤ policy.patience) :
    Itinerary policy chain raw p (o.world.tries.filter (·.chain == chain))
      (Traced.begin endpoints delay policy now chain raw o) := by
  obtain ⟨x, m, attempt, called⟩ := Attempt.of_call endpoints delay raw policy
    (.pausing now 0) now (policy.attempts - 1) known
  obtain ⟨e, t, talk, here, urls, active⟩ := attempt.talk
  obtain ⟨before, parts, hope⟩ := attempt.last
  have soon := patient o.world
  unfold Traced.begin Run.begin
  rw [called]
  refine ⟨⟨before, x, policy.attempts - 1, by simpa using parts, hope, .calling ?_, ?_⟩,
    ⟨t, here, urls, ?_⟩, ?_, ?_, List.isChain_singleton _, ?_⟩
  · omega
  · simp only [List.length_singleton]
    omega
  · simp [parts, active]
  · intro xs mem
    obtain rfl := List.mem_singleton.mp mem
    exact ⟨p, e, t, rfl, Fleet.chain_of_provider? known, talk⟩
  · obtain ⟨y, ys, made, first⟩ := talk.head
    exact ⟨y, ys, [], by rw [made], first⟩
  · simpa using attempt.tries

-- After a pause another attempt is made, where the one before it ended.
theorem resume {resume left : Nat} (i : Itinerary policy chain raw p old b)
    (pausing : b.state = .inr ⟨chain, raw, policy, .pausing resume left⟩)
    (patient : ∀ n, delay chain raw n ≤ policy.patience) :
    Itinerary policy chain raw p old (b.step endpoints delay) := by
  obtain ⟨before, x, left', log, hope, stands, few⟩ := i.stands
  obtain ⟨t, here, urls, active⟩ := i.active
  obtain ⟨z, m, attempt, called⟩ := Attempt.of_call endpoints delay raw policy
    (.pausing resume left) resume left here
  obtain ⟨e, u, talk, here', urls', active'⟩ := attempt.talk
  obtain ⟨before', parts, hope'⟩ := attempt.last
  obtain ⟨y, ys, made, first⟩ := talk.head
  have soon := patient b.outside.world
  rw [pausing] at stands
  cases stands with | pausing open' =>
  have next : b.step endpoints delay =
      ⟨.inr ⟨chain, raw, policy,
          .calling (.arriving (resume + delay chain raw b.outside.world)
            (answerOf (z.conclusion chain))) (resume + policy.patience) left⟩,
        { b.outside with world := m, acts := (resume, .attempt chain raw) :: b.outside.acts },
        b.attempts ++ [b.outside.world.attempt endpoints chain raw]⟩ := by
    unfold Traced.step
    rw [pausing]
    simp only [Run.fire]
    rw [called]
  rw [next]
  refine ⟨⟨before ++ [x] ++ before', z, left, ?_, ?_, .calling (by omega), ?_⟩,
    ⟨u, here', urls'.trans urls, ?_⟩, ?_, ?_, ?_, ?_⟩
  · simp [log, parts]
  · intro w mem
    simp only [List.mem_append, List.mem_singleton] at mem
    obtain (mem | rfl) | mem := mem
    · exact hope w mem
    · exact open'
    · exact hope' w mem
  · simp only [List.length_append, List.length_singleton]
    omega
  · simp [parts, active']
  · intro xs mem
    obtain mem | mem := List.mem_append.mp mem
    · exact i.attempts xs mem
    · obtain rfl := List.mem_singleton.mp mem
      exact ⟨t, e, u, urls, Fleet.chain_of_provider? here, talk⟩
  · obtain ⟨w, ws, rest, began, target⟩ := i.first
    exact ⟨w, ws, rest ++ [b.outside.world.attempt endpoints chain raw], by rw [began]; rfl, target⟩
  · refine i.resumes.append (List.isChain_singleton _) ?_
    intro xs last ys' only w final v begins
    obtain rfl : b.outside.world.attempt endpoints chain raw = ys' := by simpa using only
    obtain rfl : y = v := by simpa [made] using begins
    rw [first, active xs last w final]
  · rw [attempt.tries, i.tries]
    simp

-- Only the broadcast itself changes.
theorem settle {before : List Exchange} {x : Exchange} {left : Nat} {st : Outcome Submitted ⊕ Run}
    (i : Itinerary policy chain raw p old b) (log : b.attempts.flatten = before ++ [x])
    (hope : ∀ y ∈ before, ¬y.Final raw) (stands : Stands policy chain raw x st left)
    (few : b.attempts.length + left ≤ max 1 policy.attempts) :
    Itinerary policy chain raw p old { b with state := st } :=
  ⟨⟨before, x, left, log, hope, stands, few⟩, i.active, i.attempts, i.first, i.resumes, i.tries⟩

-- The answer of an attempt ends the broadcast or leaves hope.
theorem hear {instant deadline left : Nat} {before : List Exchange} {x : Exchange}
    (i : Itinerary policy chain raw p old b)
    (calling : b.state = .inr ⟨chain, raw, policy,
      .calling (.arriving instant (answerOf (x.conclusion chain))) deadline left⟩)
    (soon : instant ≤ deadline) (log : b.attempts.flatten = before ++ [x])
    (hope : ∀ y ∈ before, ¬y.Final raw)
    (few : b.attempts.length + left ≤ max 1 policy.attempts) :
    Itinerary policy chain raw p old (b.step endpoints delay) := by
  have next : b.step endpoints delay =
      { b with
        state := Run.decide instant left
          ⟨chain, raw, policy,
            .calling (.arriving instant (answerOf (x.conclusion chain))) deadline left⟩
          (judge chain raw (x.conclusion chain)) } := by
    unfold Traced.step
    rw [calling]
    dsimp only
    rw [Run.fire_answer _ _ rfl, if_pos soon, List.append_nil]
  rw [next]
  obtain ⟨hash, accepted, decision⟩ | ⟨-, lost, f, decision⟩ | ⟨hope', f, decision⟩ :=
    Exchange.judge_conclusion chain raw x
  · rw [decision]
    exact i.settle log hope (.accepted accepted) (by omega)
  · rw [decision]
    exact i.settle log hope (.failed lost) (by omega)
  · rw [decision]
    cases left with
    | zero => exact i.settle log hope (.failed fun hash yes => hope' (Or.inl ⟨hash, yes⟩)) few
    | succ rest => exact i.settle log hope (.pausing hope') few

/-- A step of the broadcast keeps it. -/
theorem step (i : Itinerary policy chain raw p old b)
    (patient : ∀ n, delay chain raw n ≤ policy.patience) :
    Itinerary policy chain raw p old (b.step endpoints delay) := by
  obtain ⟨before, x, left, log, hope, stands, few⟩ := i.stands
  generalize state : b.state = st at stands
  have still {outcome : Outcome Submitted} (ended : b.state = .inl outcome) :
      b.step endpoints delay = b := by
    unfold Traced.step
    rw [ended]
  cases stands with
  | calling soon => exact i.hear state soon log hope few
  | pausing hope' => exact i.resume state patient
  | accepted accepted =>
    rw [still state]
    exact i
  | failed lost =>
    rw [still state]
    exact i

/-- What happens meanwhile keeps it. -/
theorem meanwhile {o : Surroundings (Network σ)} (i : Itinerary policy chain raw p old b)
    (apart : Apart chain b.outside o) : Itinerary policy chain raw p old { b with outside := o } := by
  obtain ⟨t, here, urls, active⟩ := i.active
  exact ⟨i.stands, ⟨t, apart.provider.trans here, urls, active⟩, i.attempts, i.first, i.resumes,
    apart.tries.trans i.tries⟩

/-- Whatever becomes of a broadcast keeps it. -/
theorem reaches {c : Traced σ} (i : Itinerary policy chain raw p old b)
    (patient : ∀ n, delay chain raw n ≤ policy.patience)
    (reached : b.Reaches endpoints delay chain c) : Itinerary policy chain raw p old c := by
  induction reached with
  | refl => exact i
  | step before ih => exact ih.step patient
  | meanwhile before apart ih => exact ih.meanwhile apart

-- There are at most as many tries as attempts times endpoints.
theorem length_le (i : Itinerary policy chain raw p old b) :
    b.attempts.flatten.length ≤ max 1 policy.attempts * p.urls.length := by
  obtain ⟨before, x, left, -, -, -, few⟩ := i.stands
  have each : ∀ xs ∈ b.attempts, xs.length ≤ p.urls.length := by
    intro xs mem
    obtain ⟨q, e, t, urls, -, talk⟩ := i.attempts xs mem
    have := talk.length_le
    have := q.active_lt
    rw [← urls]
    omega
  exact (length_flatten_le each).trans (Nat.mul_le_mul_right _ (by omega))

end Itinerary

/-- A broadcast can be brought to its end, whatever happened to it. -/
theorem Traced.reaches_end (endpoints : Endpoints σ) (delay : ChainId → Bytes → Network σ → Nat)
    (chain : ChainId) (b : Traced σ) :
    ∃ c outcome, b.Reaches endpoints delay chain c ∧ c.state = .inl outcome := by
  suffices ends : ∀ (n : Nat) (c : Traced σ), b.Reaches endpoints delay chain c →
      (∀ r, c.state = .inr r → r.backlog < n) →
      ∃ d outcome, b.Reaches endpoints delay chain d ∧ d.state = .inl outcome by
    rcases state : b.state with outcome | r
    · exact ⟨b, outcome, .refl, state⟩
    · refine ends (r.backlog + 1) b .refl fun r' here => ?_
      obtain rfl := Sum.inr.inj (state.symm.trans here)
      exact Nat.lt_succ_self _
  -- By induction on what is left to do, which every step makes less.
  intro n
  induction n with
  | zero =>
    intro c reached less
    rcases state : c.state with outcome | r
    · exact ⟨c, outcome, reached, state⟩
    · exact absurd (less r state) (Nat.not_lt_zero _)
  | succ n ih =>
    intro c reached less
    rcases state : c.state with outcome | r
    · exact ⟨c, outcome, reached, state⟩
    · refine ih (c.step endpoints delay) reached.step fun r' here => ?_
      have fired : (r.fire (Network.broadcastAfter endpoints delay) c.outside).1 = .inr r' := by
        unfold Traced.step at here
        rw [state] at here
        exact here
      have falls := Run.backlog_fire _ fired
      have left := less r state
      omega

/-- The tries of a broadcast, at any point of it, if nobody else calls its chain
    and every attempt is answered in time. They all carry the transaction to its
    chain, and there are at most as many as attempts times endpoints. The first
    goes to the active endpoint. One that goes on with an attempt comes after an
    endpoint that was of no use and goes to the next one in the circle, and one
    that begins an attempt goes where the one before it went. None comes after
    one that was final. The broadcast can always be brought to its end, and it
    ends with a transaction exactly if some try was accepted. The chain was asked
    nothing else. -/
theorem tries_of_broadcast (endpoints : Endpoints σ)
    (delay : ChainId → Bytes → Network σ → Nat) (policy : Policy) (now : Nat) (chain : ChainId)
    (raw : Bytes) (o : Surroundings (Network σ)) (p : Provider)
    (known : o.world.fleet.provider? chain = some p)
    (patient : ∀ n, delay chain raw n ≤ policy.patience) (b : Traced σ)
    (reached : (Traced.begin endpoints delay policy now chain raw o).Reaches endpoints delay chain
      b) :
    let n := p.urls.length
    let tries := b.attempts.flatten
    (∀ x ∈ tries, x.made.chain = chain ∧ x.made.request = .sendRaw raw) ∧
      tries.length ≤ max 1 policy.attempts * n ∧
      (∃ x rest, tries = x :: rest ∧ x.made.target = p.active) ∧
      (∀ xs ∈ b.attempts, xs ≠ [] ∧ xs.IsChain (Exchange.HandsOn (Rpc.fixed? 32) n)) ∧
      b.attempts.IsChain Resumes ∧
      (∀ x ∈ tries.dropLast, ¬x.Final raw) ∧
      (∀ outcome, b.state = .inl outcome → ∀ tx, outcome = .value tx ↔
        tx.chain = chain ∧ ∃ x ∈ tries, x.Accepted raw tx.hash) ∧
      (∃ c outcome, b.Reaches endpoints delay chain c ∧ c.state = .inl outcome) ∧
      b.outside.world.tries.filter (·.chain == chain) =
        (tries.map Exchange.made).reverse ++ o.world.tries.filter (·.chain == chain) := by
  intro n tries
  have i := (Itinerary.begin known patient).reaches patient reached
  obtain ⟨before, x, left, log, hope, stands, -⟩ := i.stands
  refine ⟨?_, i.length_le, ?_, ?_, i.resumes, ?_, ?_, b.reaches_end endpoints delay chain, i.tries⟩
  · intro y mem
    obtain ⟨xs, here, mem⟩ := List.mem_flatten.mp mem
    obtain ⟨q, e, t, -, same, talk⟩ := i.attempts xs here
    rw [← same]
    exact talk.made y mem
  · obtain ⟨y, ys, rest, began, first⟩ := i.first
    exact ⟨y, ys ++ rest.flatten, by simp [tries, began], first⟩
  · intro xs mem
    obtain ⟨q, e, t, urls, -, talk⟩ := i.attempts xs mem
    refine ⟨talk.ne_nil, ?_⟩
    rw [show n = q.urls.length by rw [urls]]
    exact talk.circle
  · intro y mem
    rw [show tries = before ++ [x] from log, List.dropLast_concat] at mem
    exact hope y mem
  · intro outcome ended tx
    -- Of all tries only the last one can have been accepted.
    have last {hash : Hash} : (∃ y ∈ tries, y.Accepted raw hash) ↔ x.Accepted raw hash := by
      rw [show tries = before ++ [x] from log]
      constructor
      · rintro ⟨y, mem, yes⟩
        obtain mem | mem := List.mem_append.mp mem
        · exact absurd (Or.inl ⟨hash, yes⟩) (hope y mem)
        · exact List.mem_singleton.mp mem ▸ yes
      · exact fun yes => ⟨x, by simp, yes⟩
    rw [last]
    rw [ended] at stands
    cases stands with
    | @accepted hash accepted =>
      constructor
      · rintro ⟨⟩
        exact ⟨rfl, accepted⟩
      · rintro ⟨rfl, yes⟩
        rw [accepted.unique yes]
    | failed lost => simp [lost]

section Witness

/-- Endpoints that give one reply after another, whatever they are asked. -/
def scripted : Endpoints (List Rpc.Reply) := fun _ _ replies =>
  (replies.headD .unreadable, replies.tail)

/-- A chain with two endpoints, the second of which is active. -/
def pair : Provider :=
  let url : Url := ⟨['h'], none, .segments [], none, none⟩
  ⟨5, "pair", [url, url], 1, by decide⟩

/-- The chain of the pair. The endpoints are of no use, reject, are of no use,
    and have the transaction. -/
def paired : Surroundings (Network (List Rpc.Reply)) :=
  .fresh ⟨⟨[pair]⟩,
    [.unreadable, .refused ⟨0, "underpriced", none⟩, .unreadable,
      .refused ⟨0, "already known", none⟩], []⟩

/-- A broadcast on the pair, after its first attempt, a pause and its second
    attempt. -/
def twice : Traced (List Rpc.Reply) :=
  let endpoints := scripted
  let delay := fun _ _ _ => 3
  ((((Traced.begin endpoints delay ⟨2, 10, 3⟩ 0 5 [1] paired).step endpoints delay).step endpoints
    delay).step endpoints delay)

/-- A broadcast on two endpoints that tries both of them twice, and succeeds with
    the last try. -/
theorem tries_across_endpoints :
    (twice.attempts.map fun xs => xs.map fun x => x.made.target) = [[1, 0], [0, 1]] ∧
      twice.state = .inl (.value ⟨5, keccak256 [1]⟩) ∧
      twice.attempts.flatten.length ≤ 2 * 2 ∧
      ∃ x ∈ twice.attempts.flatten, x.Accepted [1] (keccak256 [1]) := by
  obtain ⟨-, few, -, -, -, -, success, -⟩ := tries_of_broadcast scripted (fun _ _ _ => 3)
    ⟨2, 10, 3⟩ 0 5 [1] paired pair rfl (fun _ => Nat.le_refl 3) twice
    (.step (.step (.step .refl)))
  -- The chain has the transaction already. Its hash need not be computed.
  have accepted : ∃ x ∈ twice.attempts.flatten, x.Accepted [1] (keccak256 [1]) := by
    have known : (twice.attempts.flatten.any fun x => x.handover.casesOn (fun _ => false)
        (fun r => decide (Rejection.ofMessage r.text = .alreadyKnown)) false) = true := by
      decide +kernel
    obtain ⟨x, mem, yes⟩ := List.any_eq_true.mp known
    cases said : x.handover with
    | refused r =>
      rw [said] at yes
      exact ⟨x, mem, .known said (of_decide_eq_true yes)⟩
    | value hash => simp [said] at yes
    | failed => simp [said] at yes
  have ended : twice.state = .inl (.value ⟨5, keccak256 [1]⟩) := by
    rcases state : twice.state with outcome | r
    · rw [(success outcome state ⟨5, keccak256 [1]⟩).mpr ⟨rfl, accepted⟩]
    · have same : twice.state.isLeft = true := by decide +kernel
      rw [state] at same
      exact absurd same (by simp)
  exact ⟨by decide +kernel, ended, few, accepted⟩

end Witness

end Broadcast

end TxRelay
