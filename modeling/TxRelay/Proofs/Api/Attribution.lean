import TxRelay.Proofs.Api.Chronicle
import TxRelay.Proofs.Queue.Origin

/-!
# What Is Done for Whom

`Attributed` is the invariant that joins a service to its chronicle. Each field says
where something comes from: what is stored comes from a request that submitted it,
what is under way comes from what was stored, an answer that is waited for comes from
an exchange, and the outcome of a send operation comes from such an answer. The
anchor is `handed`. The network counts its tries on its own, and they are the ones
of the chronicle, so a submission for which the chronicle has no exchange is one for
which nothing was sent.

Two fields say what a service never sees. Its worker is not lost, because every
operation that it runs is one that the chains answer with a value or a failure,
unless its settings have no time between lookups (`manned`). And no submission fails
for want of its chain, because it was connected when the submission came in, and no
call disconnects a chain (`connected`).

## Main definitions

* `Api.Awaits`: What a send operation under way waits for.
* `Api.Brought`: What a send operation brought.
* `Api.Attributed`: What is done for whom.

## Theorems

* `Provider.Exchange.status_of_judge`: With which statuses attempts fail.
* `Api.Attributed.kept`: Every turn keeps it.
* `Api.Attributed.play`: It holds in every run.
-/

namespace TxRelay

open Provider (Exchange)

-- The failures of an attempt have statuses of their own.
theorem Provider.Exchange.status_of_judge {x : Exchange} {chain : ChainId} {raw : Bytes}
    {f : Failure} (fails : Broadcast.judge chain raw (x.conclusion chain) = .refuse f ∨
      Broadcast.judge chain raw (x.conclusion chain) = .again f) :
    Api.statusOf f = 409 ∨ Api.statusOf f = 502 := by
  unfold Exchange.conclusion at fails
  cases said : x.handover with
  | value hash => simp [said, Broadcast.judge] at fails
  | failed =>
    simp only [said, Broadcast.judge, Failure.retryable, if_true, reduceCtorEq,
      Broadcast.Decision.again.injEq, false_or] at fails
    exact Or.inr (by rw [← fails]; rfl)
  | refused r =>
    simp only [said, Broadcast.judge] at fails
    cases rejection : Rejection.ofMessage r.text with
    | alreadyKnown => simp [rejection] at fails
    | nonceTooLow =>
      simp only [rejection, reduceCtorEq, Broadcast.Decision.refuse.injEq, or_false] at fails
      exact Or.inl (by rw [← fails]; rfl)
    | insufficientFunds =>
      simp only [rejection, reduceCtorEq, Broadcast.Decision.refuse.injEq, or_false] at fails
      exact Or.inr (by rw [← fails]; rfl)
    | other =>
      simp only [rejection, reduceCtorEq, Broadcast.Decision.again.injEq, false_or] at fails
      exact Or.inr (by rw [← fails]; rfl)

namespace Api

variable {σ : Type} {c : Setup σ} {pace : Pace σ} {g g' : Chronicle σ}
  {h : List (Nat × Queue.Happening)}

/-- What a send operation under way waits for. -/
inductive Awaits (g : Chronicle σ) (n : Nat) : Queue.Sending → Prop where
  /-- The next attempt, after a pause. -/
  | pausing {run : Broadcast.Run} {resume left : Nat}
      (posted : (n, run.chain, run.raw) ∈ g.posted) (phase : run.phase = .pausing resume left) :
      Awaits g n (.relay run)
  /-- The answer of an attempt. -/
  | calling {run : Broadcast.Run} {x : Exchange} {i deadline left : Nat}
      (posted : (n, run.chain, run.raw) ∈ g.posted) (said : (n, x) ∈ g.talks)
      (phase : run.phase =
        .calling (.arriving i (Broadcast.answerOf (x.conclusion run.chain))) deadline left) :
      Awaits g n (.relay run)

/-- What a send operation brought. -/
inductive Brought (g : Chronicle σ) (n : Nat) : Outcome Submitted → Prop where
  /-- The transaction is with its chain, as an exchange says. -/
  | value {chain : ChainId} {raw : Bytes} {hash : Hash} {x : Exchange}
      (posted : (n, chain, raw) ∈ g.posted) (said : (n, x) ∈ g.talks)
      (accepted : x.Accepted raw hash) : Brought g n (.value ⟨chain, hash⟩)
  /-- The nonce was used, or something on the way failed. -/
  | failure {f : Failure} (status : statusOf f = 409 ∨ statusOf f = 502) :
      Brought g n (.failure f)

theorem Awaits.posted {n : Nat} {run : Broadcast.Run} (awaits : Awaits g n (.relay run)) :
    (n, run.chain, run.raw) ∈ g.posted := by
  cases awaits with
  | pausing posted phase => exact posted
  | calling posted said phase => exact posted

section Mono

variable {n : Nat} (posted : g.posted ⊆ g'.posted) (talks : g.talks ⊆ g'.talks)

include posted talks

theorem Awaits.mono {operation : Queue.Sending} (awaits : Awaits g n operation) :
    Awaits g' n operation := by
  cases awaits with
  | pausing known phase => exact .pausing (posted known) phase
  | calling known said phase => exact .calling (posted known) (talks said) phase

theorem Brought.mono {outcome : Outcome Submitted} (brought : Brought g n outcome) :
    Brought g' n outcome := by
  cases brought with
  | value known said accepted => exact .value (posted known) (talks said) accepted
  | failure status => exact .failure status

end Mono

/-- What is done for whom. -/
structure Attributed (c : Setup σ) (pace : Pace σ) (g : Chronicle σ) : Prop where
  /-- What the history knows about submissions. -/
  recorded : Queue.Recorded (c.paced pace) g.service.queue g.history
  /-- Answers are true. -/
  truthful : Queue.Truthful (c.paced pace) g.history
  /-- Answers are made from something. -/
  sourced : Queue.Sourced g.service.queue g.history
  /-- Every ticket that was given out is for one transaction. -/
  tickets : g.posted.map Prod.fst = (List.range g.service.queue.asked).reverse
  /-- The chains of all transactions are connected. -/
  connected : ∀ x ∈ g.posted, (g.service.fleet.provider? x.2.1).isSome
  /-- What is stored or waits for a place was submitted. -/
  stored : ∀ e ∈ g.service.queue.buffer ++ g.service.queue.waiters,
    ∃ chain raw, e.send = .relay chain raw ∧ (e.ticket, chain, raw) ∈ g.posted
  /-- What is sent was submitted, and waits for what a node said. -/
  sending : ∀ n operation, g.service.queue.stage = .sending n operation → Awaits g n operation
  /-- No lookup under way takes the worker down. -/
  uncrashed : Queue.Uncrashed g.service.queue
  /-- What send operations brought is what nodes said. -/
  brought : ∀ b n outcome, (b, Queue.Happening.returned n outcome) ∈ g.history →
    Brought g n outcome
  /-- The worker was not lost, if lookups are paced. -/
  manned : ∀ i how, (i, Queue.Happening.left how) ∈ g.history →
    how = .finished ∨ c.plan.interval = 0
  /-- What was said for a submission was said when it was handed over. -/
  talks : ∀ x ∈ g.talks, x.1 ∈ g.service.queue.sent ∧ ∃ chain raw,
    (x.1, chain, raw) ∈ g.posted ∧ x.2.made.chain = chain ∧ x.2.made.request = .sendRaw raw
  /-- All tries that handed a transaction over are kept. -/
  handed : g.service.queue.outside.world.handed = g.talks.map fun x => x.2.made

namespace Attributed

theorem fresh (c : Setup σ) (pace : Pace σ) (f : Fleet) (world : σ) (untracked : List ChainId) :
    Attributed c pace (Chronicle.fresh f world untracked) := by
  refine ⟨Queue.Recorded.fresh _ _, ?_, Queue.Sourced.fresh _, rfl, ?_, ?_, ?_, ?_, ?_, ?_, ?_, rfl⟩
  · intro later a e earlier split
    exact absurd split.symm (List.append_ne_nil_of_right_ne_nil later (List.cons_ne_nil _ _))
  · exact fun x mem => absurd mem List.not_mem_nil
  · exact fun e mem => absurd mem List.not_mem_nil
  · exact fun n operation stage => absurd stage Queue.Stage.noConfusion
  · exact fun n began wait i text stage => absurd stage Queue.Stage.noConfusion
  · exact fun b n outcome mem => absurd mem List.not_mem_nil
  · exact fun i how mem => absurd mem List.not_mem_nil
  · exact fun x mem => absurd mem List.not_mem_nil

/-- What is aside from the queue keeps it. -/
theorem aside (a : Attributed c pace g) (queue : g.service.queue.Aside g'.service.queue)
    (history : g'.history = g.history) (posted : g'.posted = g.posted)
    (talks : g'.talks = g.talks) : Attributed c pace g' := by
  obtain ⟨⟨t, nonces⟩, hist, told, made⟩ := g'
  obtain ⟨o, same, acts, calm⟩ := queue
  dsimp only at same history posted talks
  subst same history posted talks
  refine ⟨a.recorded.outside acts, a.truthful, a.sourced.outside acts, a.tickets, ?_, a.stored,
    fun n operation stage => (a.sending n operation stage).mono (by exact fun _ mem => mem)
      (by exact fun _ mem => mem),
    a.uncrashed,
    fun b n outcome mem => (a.brought b n outcome mem).mono (by exact fun _ mem => mem)
      (by exact fun _ mem => mem),
    a.manned, ?_, ?_⟩
  · exact fun x mem => (calm.connected x.2.1).trans (a.connected x mem)
  · intro x mem
    obtain ⟨sent, known⟩ := a.talks x mem
    refine ⟨?_, known⟩
    show x.1 ∈ Queue.State.sent { g.service.queue with outside := o }
    rw [Queue.State.sent_outside acts]
    exact sent
  · exact calm.handed.trans a.handed

-- The send operation that ends brought what a node said, or nothing.
theorem brought_of_returns (a : Attributed c pace g) {n i : Nat} {outcome : Outcome Submitted}
    {o : Surroundings (Network σ)}
    (returns : Queue.Returns (c.paced pace) g.service.queue n i outcome o) :
    Brought g n outcome := by
  cases returns with
  | direct stage => nomatch a.sending n _ stage
  | @relay run _ _ stage fire =>
    cases a.sending n _ stage with
    | pausing posted phase => simp [Broadcast.Run.fire, phase] at fire
    | @calling _ x i deadline left posted said phase =>
      rw [Broadcast.Run.fire_answer _ _ phase] at fire
      have ended := (Prod.mk.inj fire).1
      split at ended
      · obtain ⟨hash, accepted, decision⟩ | ⟨-, -, f, decision⟩ | ⟨-, f, decision⟩ :=
          Exchange.judge_conclusion run.chain run.raw x
        · rw [decision] at ended
          obtain rfl := Sum.inl.inj ended
          exact .value posted said accepted
        · rw [decision] at ended
          obtain rfl := Sum.inl.inj ended
          exact .failure (Exchange.status_of_judge (Or.inl decision))
        · rw [decision] at ended
          cases left with
          | zero =>
            obtain rfl := Sum.inl.inj ended
            exact .failure (Exchange.status_of_judge (Or.inr decision))
          | succ rest => simp [Broadcast.Run.decide] at ended
      · cases left with
        | zero =>
          obtain rfl := Sum.inl.inj ended
          exact .failure (Or.inr rfl)
        | succ rest => simp [Broadcast.Run.decide] at ended

-- Nothing takes the worker down but a wait that cannot begin.
theorem unpaced_of_crash (a : Attributed c pace g) {n i : Nat} {d : Option Queue.Happening}
    {o : Surroundings (Network σ)} {text : String}
    (flight : Queue.Flight (c.paced pace) g.service.queue n i d o (.crash text)) :
    c.plan.interval = 0 := by
  cases flight with
  | sendCrashed returns => nomatch a.brought_of_returns returns
  | unpaced returns opened unpaced => exact Nat.eq_zero_of_not_pos unpaced
  | lookupCrashed stage opened answer =>
    rename_i began wait
    obtain ⟨reply, phase⟩ := Confirmation.Wait.asking_of_answer answer
    cases reply with
    | never => simp [Confirmation.Wait.next, phase] at answer
    | arriving instant outcome =>
      unfold Confirmation.Wait.next at answer
      rw [phase] at answer
      dsimp only at answer
      split at answer
      · obtain ⟨-, rfl⟩ := Confirmation.Wait.Next.answer.inj answer
        exact absurd phase (a.uncrashed n began wait instant text stage)
      · simp at answer

/-- What a step says to the chains. -/
structure Spells (c : Setup σ) (g : Chronicle σ) (t : Queue.State (Network σ)) : Prop where
  /-- The same chains are connected. -/
  connected : ∀ chain, (t.outside.world.fleet.provider? chain).isSome =
    (g.service.fleet.provider? chain).isSome
  /-- What was said is all that handed a transaction over. -/
  handed : t.outside.world.handed =
    ((Chronicle.said c.endpoints g.service.queue t).map fun x => x.2.made) ++
      g.service.queue.outside.world.handed
  /-- It was said for the submission in flight. -/
  talks : ∀ x ∈ Chronicle.said c.endpoints g.service.queue t,
    t.stage.ticket? = some x.1 ∧ ∃ chain raw, (x.1, chain, raw) ∈ g.posted ∧
      x.2.made.chain = chain ∧ x.2.made.request = .sendRaw raw
  /-- What is under way waits for what was said. -/
  sending : ∀ n operation, t.stage = .sending n operation →
    Awaits g n operation ∨ ∃ run x i deadline left, operation = .relay run ∧
      (n, run.chain, run.raw) ∈ g.posted ∧
      (n, x) ∈ Chronicle.said c.endpoints g.service.queue t ∧
      run.phase =
        .calling (.arriving i (Broadcast.answerOf (x.conclusion run.chain))) deadline left

-- A step that hands nothing over leaves under way what was there.
theorem spells_calm (a : Attributed c pace g) {t : Queue.State (Network σ)}
    (calm : Network.Calm g.service.queue.outside.world t.outside.world)
    (nothing : Queue.attempts (Queue.newest t.outside.acts g.service.queue.outside.acts) = [])
    (continues : Queue.Continues g.service.queue t) : Spells c g t := by
  have silent : Chronicle.said c.endpoints g.service.queue t = [] := by
    unfold Chronicle.said
    split
    · rfl
    · rw [nothing]
      rfl
  refine ⟨calm.connected, ?_, ?_, ?_⟩
  · rw [silent]
    exact calm.handed
  · rw [silent]
    exact fun x mem => absurd mem List.not_mem_nil
  · intro n operation stage
    refine Or.inl ?_
    obtain before | ⟨e, mem, rfl, reply, direct⟩ | ⟨run, resume, left, before, rfl⟩ :=
      continues n operation stage
    · exact a.sending n operation before
    · -- Nothing is stored but what was submitted.
      obtain ⟨chain, raw, relay, -⟩ := a.stored e (List.mem_append_left _ mem)
      exact absurd (direct.symm.trans relay) (by simp)
    · exact .pausing (a.sending n _ before).posted rfl

/-- What a step says to the chains, it says for the submission in flight. -/
theorem spells (a : Attributed c pace g) {t : Queue.State (Network σ)}
    (step : Queue.Step (c.paced pace) g.service.queue h t) : Spells c g t := by
  have newest : Queue.newest t.outside.acts g.service.queue.outside.acts = Queue.done h := by
    rw [step.done_eq]
    exact Queue.newest_append _ _
  cases step.touch with
  | none world acts continues =>
    exact a.spells_calm (by rw [world]; exact .refl _) (newest ▸ acts) continues
  | @lookup chain hash world acts continues =>
    refine a.spells_calm ?_ (newest ▸ acts) continues
    rw [world]
    exact Network.calm_transaction c.endpoints chain hash _
  | @attempt n i deadline left run whose world acts stage =>
    have posted : (n, run.chain, run.raw) ∈ g.posted := by
      obtain ⟨e, mem, rfl, relay⟩ | before := whose
      · obtain ⟨chain, raw, same, posted⟩ := a.stored e (List.mem_append_left _ mem)
        obtain ⟨rfl, rfl⟩ := Queue.Send.relay.inj (same.symm.trans relay)
        exact posted
      · exact (a.sending n _ before).posted
    obtain ⟨p, known⟩ := Option.isSome_iff_exists.mp (a.connected _ posted)
    obtain ⟨e, before, x, m, spoken, parts, -, sent⟩ :=
      Network.sendRaw_spec c.endpoints run.chain run.raw known
    obtain ⟨u, talk, -⟩ := spoken.talk
    have reply : (c.paced pace).broadcast run.chain run.raw g.service.queue.outside.world =
        (.after (pace.attempt run.chain run.raw g.service.queue.outside.world)
          (Broadcast.answerOf (x.conclusion run.chain)), m) := by
      show (Network.delayed _ (Network.sendRaw _ _ _ _).1, _) = _
      rw [sent]
      cases x.conclusion run.chain <;> rfl
    have said : Chronicle.said c.endpoints g.service.queue t =
        ((g.service.queue.outside.world.attempt c.endpoints run.chain run.raw).map
          fun y => (n, y)).reverse := by
      unfold Chronicle.said
      rw [stage]
      dsimp only [Queue.Stage.ticket?]
      rw [newest, acts]
      simp
    rw [reply] at world stage
    refine ⟨?_, ?_, ?_, ?_⟩
    · intro other
      rw [world]
      exact spoken.connected known other
    · rw [world, spoken.handed, said, if_pos (by rfl), List.map_reverse, List.map_map]
      rfl
    · intro y mem
      rw [said] at mem
      obtain ⟨z, made, rfl⟩ := List.mem_map.mp (List.mem_reverse.mp mem)
      obtain ⟨chain, request⟩ := talk.made z made
      exact ⟨by rw [stage]; rfl, run.chain, run.raw, posted,
        chain.trans (Fleet.chain_of_provider? known), request⟩
    · intro k operation here
      obtain ⟨rfl, rfl⟩ := Queue.Stage.sending.inj (stage.symm.trans here)
      refine Or.inr ⟨_, x, _, _, _, rfl, posted, ?_, rfl⟩
      rw [said, parts]
      simp

-- Lookups of a service take nobody down.
theorem lookup_calm (c : Setup σ) (pace : Pace σ) (chain : ChainId) (hash : Hash)
    (world : Network σ) (delay : Nat) (text : String) :
    ((c.paced pace).lookup chain hash world).1 ≠ .after delay (.crash text) := by
  show Network.delayed _ _ ≠ _
  cases (world.transaction c.endpoints chain hash).1 <;> simp [Network.delayed, Except.map]

/-- A step of the queue keeps it. What is left to show is who is stored, and how the
    worker goes away. -/
theorem of_step (a : Attributed c pace g)
    (step : Queue.Step (c.paced pace) g.service.queue h g'.service.queue)
    (history : g'.history = h ++ g.history) (posted : g.posted ⊆ g'.posted)
    (talks : g'.talks = Chronicle.said c.endpoints g.service.queue g'.service.queue ++ g.talks)
    (tickets : g'.posted.map Prod.fst = (List.range g'.service.queue.asked).reverse)
    (connected : ∀ x ∈ g'.posted, (g.service.fleet.provider? x.2.1).isSome)
    (stored : ∀ e ∈ g'.service.queue.buffer ++ g'.service.queue.waiters,
      ∃ chain raw, e.send = .relay chain raw ∧ (e.ticket, chain, raw) ∈ g'.posted)
    (manned : ∀ i how, (i, Queue.Happening.left how) ∈ h → how = .finished ∨ c.plan.interval = 0) :
    Attributed c pace g' := by
  have spells := a.spells step
  have recorded := a.recorded.kept step
  have sent : g'.service.queue.sent = (Queue.done h).filterMap (fun x => x.2.sent?) ++
      g.service.queue.sent := Queue.State.sent_of_acts step.done_eq
  have before : g.talks ⊆ g'.talks := by
    rw [talks]
    exact List.subset_append_right _ _
  refine ⟨?_, ?_, ?_, tickets, ?_, stored, ?_,
    a.uncrashed.kept step (lookup_calm c pace), ?_, ?_, ?_, ?_⟩
  · rw [history]
    exact recorded
  · rw [history]
    exact a.truthful.kept step a.recorded
  · rw [history]
    exact a.sourced.kept step a.recorded
  · exact fun x mem => (spells.connected x.2.1).trans (connected x mem)
  · intro n operation stage
    obtain awaits | ⟨run, x, i, deadline, left, rfl, known, said, phase⟩ :=
      spells.sending n operation stage
    · exact awaits.mono posted before
    · refine .calling (posted known) ?_ phase
      rw [talks]
      exact List.mem_append_left _ said
  · intro b n outcome mem
    rw [history] at mem
    obtain new | old := List.mem_append.mp mem
    · obtain ⟨i, o, returns⟩ := step.returns_of_mem new
      exact (a.brought_of_returns returns).mono posted before
    · exact (a.brought b n outcome old).mono posted before
  · intro i how mem
    rw [history] at mem
    obtain new | old := List.mem_append.mp mem
    · exact manned i how new
    · exact a.manned i how old
  · intro x mem
    rw [talks] at mem
    obtain new | old := List.mem_append.mp mem
    · obtain ⟨flight, chain, raw, known, carries⟩ := spells.talks x new
      exact ⟨recorded.begun x.1 flight, chain, raw, posted known, carries⟩
    · obtain ⟨began, chain, raw, known, carries⟩ := a.talks x old
      rw [sent]
      exact ⟨List.mem_append_right _ began, chain, raw, posted known, carries⟩
  · rw [spells.handed, talks, List.map_append, a.handed]

/-- Every turn keeps it. -/
theorem kept (a : Attributed c pace g) (turn : Chronicle.Turn c pace g g') :
    Attributed c pace g' := by
  cases turn with
  | aside queue history posted talks => exact a.aside queue history posted talks
  | @submits chain raw h connected queue step history posted talks =>
    obtain ⟨counts, -, stage, acts, -⟩ :=
      Queue.State.frame_enqueue c.queue.places (.relay chain raw) g.service.queue
    refine a.of_step step history ?_ ?_ ?_ ?_ ?_ ?_
    · rw [posted]
      exact List.subset_cons_self _ _
    · rw [talks, Chronicle.said_of_acts c.endpoints (by rw [queue, acts])]
      rfl
    · rw [posted, queue, counts, List.range_succ, List.reverse_append, List.map_cons, a.tickets]
      rfl
    · intro x mem
      rw [posted] at mem
      obtain rfl | mem := List.mem_cons.mp mem
      · exact connected
      · exact a.connected x mem
    · intro e mem
      rw [queue] at mem
      rw [posted]
      obtain old | rfl := Queue.State.mem_enqueue mem
      · obtain ⟨chain', raw', relay, known⟩ := a.stored e old
        exact ⟨chain', raw', relay, List.mem_cons_of_mem _ known⟩
      · exact ⟨chain, raw, rfl, List.mem_cons_self⟩
    · -- A caller who asks does not end the worker.
      intro i how mem
      obtain ⟨alive, gone⟩ := step.ending_of_left mem
      rw [queue, stage, alive] at gone
      exact absurd gone (by simp)
  | @works m h served queue step history posted talks =>
    obtain ⟨counts, -⟩ := Queue.State.frame_move (q := c.paced pace) (s := g.service.queue) served
    refine a.of_step step history (by rw [posted]; exact List.Subset.refl _) talks ?_ ?_ ?_ ?_
    · rw [posted, queue, counts]
      exact a.tickets
    · rw [posted]
      exact a.connected
    · intro e mem
      rw [posted]
      obtain old | ⟨-, more⟩ := step.stored_of_mem mem
      · exact a.stored e old
      · rw [queue, counts] at more
        exact absurd more (Nat.succ_ne_self _).symm
    · intro i how mem
      obtain ⟨alive, gone⟩ := step.ending_of_left mem
      rw [queue] at gone
      obtain finished | ⟨n, j, d, o, text, flight⟩ := Queue.State.ending_move served alive gone
      · exact Or.inl finished
      · exact Or.inr (a.unpaced_of_crash flight)

/-- It holds in every run. -/
theorem play (c : Setup σ) (pace : Pace σ) (f : Fleet) (world : σ) (untracked : List ChainId)
    (moves : List Move) :
    Attributed c pace ((Chronicle.fresh f world untracked).play c pace moves) :=
  Chronicle.turn_induction c pace (fun _ _ _ turn a => a.kept turn) moves _
    (Service.Keeps.fresh f world untracked) (fresh c pace f world untracked)

end Attributed

end Api

end TxRelay
