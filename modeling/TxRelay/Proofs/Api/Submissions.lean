import Mathlib.Data.List.Nodup
import TxRelay.Proofs.Api.Attribution

/-!
# What the Answer to a Submission Says

A caller who submits a transaction has a status to go by. It decides by it whether
to submit the transaction again, to wait, or to look for it on the chain, so the
status has to agree with what was sent.

A request that is at fault is answered at once, and nothing changes. Everything
else gets a ticket. The answer to a ticket has an origin in the history of the
queue, and each origin leads to a status: a queue that was closed before the
transaction was sent to 503, a failed send operation to 409 or 502, a transaction
that was seen leaving the pending pool to 200 and one that was not to 202. What
was sent is read off the chronicle, whose exchanges are all the tries that the
network made.

The answer that the worker was lost, with status 500, is never given if lookups are
paced, and settings without a pace are refused when they are loaded.

## Main definitions

* `Api.Expired`: A wait was over without a result.
* `Api.Faithful`: What the answer to a submission says about what was sent.

## Theorems

* `Api.Service.told?_cases`: What a caller is told at last.
* `Api.Attributed.told_faithful`: The answer to a submission is faithful.
* `Api.submissions_answered_faithfully`: So it is in every run, and requests that
  are at fault change nothing.
-/

namespace TxRelay

open Provider (Exchange)

namespace Api

open Queue (Happening Event)

variable {σ : Type} {c : Setup σ} {pace : Pace σ} {g : Chronicle σ} {n t : Nat} {r : Response}

/-- The wait for the confirmation of a submission was over without a result when it
    was answered: the transaction was sent, the limit had passed since, nobody had
    asked for a stop, and no lookup had found the transaction gone. -/
def Expired (c : Setup σ) (history : List (Nat × Happening)) (n a : Nat) : Prop :=
  ∃ later e earlier r b tx, history = later ++ (a, .told e) :: earlier ∧
    e.answer? = some (n, r) ∧ (b, Happening.returned n (.value tx)) ∈ history ∧
    a = b + c.plan.limit ∧ (∀ i, (i, Happening.closed) ∉ earlier) ∧
    ∀ i tx' l, (i, Happening.heard n tx' l (.value false)) ∉ earlier

/-- What the answer to a submission, given at an instant, says about what was
    sent. -/
structure Faithful (c : Setup σ) (g : Chronicle σ) (n : Nat) (chain : ChainId) (raw : Bytes)
    (a : Nat) (answer : Answer) : Prop where
  /-- The submission was logged. -/
  posted : (n, chain, raw) ∈ g.posted
  /-- These are all statuses, if lookups are paced. -/
  status : answer.status ∈ [200, 202, 409, 502, 503] ∨
    answer.status = 500 ∧ c.plan.interval = 0
  /-- If the queue was closed, not a single try was made. -/
  closed : answer.status = 503 → ∀ x, (n, x) ∉ g.talks
  /-- If the transaction was submitted, a node accepted it, under the hash that the
      caller is told. -/
  submitted : answer.status = 200 → ∃ x hash, (n, x) ∈ g.talks ∧ x.made.chain = chain ∧
    x.made.request = .sendRaw raw ∧ x.Accepted raw hash ∧
    answer = .json 200 [("submission_id", .str (c.idOf n).render), ("chain_id", .nat chain.toNat),
      ("tx_hash", .str (Hex.encodePrefixed hash.toList))]
  /-- If nobody knows what became of it, the caller is told so, and only then. -/
  unknown : answer.status = 202 ↔ answer.unknownOutcome = true
  /-- Nobody knows exactly if the wait for it was over without a result. -/
  expired : answer.status ≠ 500 → (answer.status = 202 ↔ Expired c g.history n a)

@[simp]
theorem statusOf_transactionMissing (hash : Hash) : statusOf (.transactionMissing hash) = 202 :=
  rfl

@[simp]
theorem statusOf_missingResult : statusOf .missingResult = 500 :=
  rfl

@[simp]
theorem Answer.status_ofFailure (f : Failure) : (Answer.ofFailure f).status = statusOf f :=
  rfl

@[simp]
theorem Service.answerSubmission_failed (id : SubmissionId) (f : Failure) :
    answerSubmission id (.failed f) = .ofFailure f :=
  rfl

@[simp]
theorem Service.status_submitted (id : SubmissionId) (tx : Submitted) :
    (answerSubmission id (.submitted tx)).status = 200 :=
  rfl

@[simp]
theorem Service.unknownOutcome_submitted (id : SubmissionId) (tx : Submitted) :
    (answerSubmission id (.submitted tx)).unknownOutcome = false :=
  rfl

-- The status of a failure tells whether its outcome is unknown.
theorem statusOf_eq_accepted (f : Failure) : statusOf f = 202 ↔ f.outcomeUnknown = true := by
  cases f <;> unfold statusOf <;> simp [Failure.outcomeUnknown]

-- The answer to a submission is told to have an unknown outcome by its status.
theorem unknownOutcome_answerSubmission (id : SubmissionId) (r : Response) :
    (Service.answerSubmission id r).status = 202 ↔
      (Service.answerSubmission id r).unknownOutcome = true := by
  cases r with
  | submitted tx => simp
  | failed f => simpa using statusOf_eq_accepted f

namespace Service

/-- What a caller is told at last: the answer to its submission, or that it was
    turned away. -/
theorem told?_cases {events : List (Nat × Event)} (told : told? n events = some (t, r)) :
    (t, Event.answered n r) ∈ events ∨
      (t, Event.rejected n) ∈ events ∧ r = .failed .queueClosed := by
  induction events with
  | nil => exact absurd told (by simp [told?])
  | cons x rest ih =>
    have later (told : told? n rest = some (t, r)) :
        (t, Event.answered n r) ∈ x :: rest ∨
          (t, Event.rejected n) ∈ x :: rest ∧ r = .failed .queueClosed :=
      (ih told).imp (List.mem_cons_of_mem x) fun turned =>
        ⟨List.mem_cons_of_mem x turned.1, turned.2⟩
    obtain ⟨i, e⟩ := x
    cases e with
    | accepted m | unheard m u => exact later told
    | rejected m =>
      simp only [told?] at told
      split at told
      · rename_i here
        obtain ⟨rfl, rfl⟩ := Prod.mk.inj (Option.some.inj told)
        exact Or.inr ⟨here ▸ List.mem_cons_self, rfl⟩
      · exact later told
    | answered m u =>
      simp only [told?] at told
      split at told
      · rename_i here
        obtain ⟨rfl, rfl⟩ := Prod.mk.inj (Option.some.inj told)
        exact Or.inl (here ▸ List.mem_cons_self)
      · exact later told

end Service

namespace Chronicle

-- A request that changes nothing is no part of the chronicle.
theorem move_rejected {q : Request} (none : q.submission? g.service.fleet = none)
    (same : (g.service.take c q).2 = g.service) : g.move c pace (.request q) = g := by
  have move : g.service.move c pace (.request q) = g.service := same
  have submits : g.service.submitted? (.request q) = Option.none := by
    simp [Service.submitted?, none]
  unfold Chronicle.move
  dsimp only
  rw [move, submits, said_of_acts c.endpoints rfl]
  show Chronicle.mk _ (Queue.State.entries Option.none _ _ ++ _) _ _ = g
  rw [Queue.State.entries_self]
  rfl

end Chronicle

namespace Attributed

-- Every ticket that was given out is of a submission.
theorem posted_of_asked (a : Attributed c pace g) (asked : n < g.service.queue.asked) :
    ∃ chain raw, (n, chain, raw) ∈ g.posted := by
  have mem : n ∈ g.posted.map Prod.fst := by
    rw [a.tickets]
    simpa using asked
  obtain ⟨⟨m, chain, raw⟩, posted, rfl⟩ := List.mem_map.mp mem
  exact ⟨chain, raw, posted⟩

-- A ticket is of one submission.
theorem tickets_nodup (a : Attributed c pace g) : (g.posted.map Prod.fst).Nodup := by
  rw [a.tickets, List.nodup_reverse]
  exact List.nodup_range

-- What was said for a submission carried its transaction to its chain.
theorem carried (a : Attributed c pace g) {chain : ChainId} {raw : Bytes} {x : Exchange}
    (posted : (n, chain, raw) ∈ g.posted) (said : (n, x) ∈ g.talks) :
    x.made.chain = chain ∧ x.made.request = .sendRaw raw := by
  obtain ⟨-, chain', raw', posted', there, carries⟩ := a.talks (n, x) said
  have same := List.inj_on_of_nodup_map a.tickets_nodup posted posted' rfl
  obtain ⟨rfl, rfl⟩ := Prod.mk.inj (congrArg Prod.snd same)
  exact ⟨there, carries⟩

-- What was not sent has no exchanges.
theorem silent (a : Attributed c pace g) (unsent : n ∉ g.service.queue.sent) (x : Exchange) :
    (n, x) ∉ g.talks :=
  fun said => unsent (a.talks (n, x) said).1

-- A caller who was turned away was given a ticket, and nothing was sent.
theorem of_rejected (a : Attributed c pace g) {i : Nat}
    (turned : (i, Event.rejected n) ∈ g.service.queue.events) :
    n < g.service.queue.asked ∧ n ∉ g.service.queue.sent := by
  have mem : n ∈ g.service.queue.rejected := List.mem_filterMap.mpr ⟨_, turned, rfl⟩
  have away := List.count_pos_iff.mpr mem
  have once := a.recorded.ledger.once n
  have taken := a.recorded.ledger.taken n
  refine ⟨?_, fun sent => ?_⟩
  · by_contra beyond
    rw [if_neg beyond] at once
    omega
  · have began := List.count_pos_iff.mpr sent
    split at once <;> omega

-- A submission that was answered was given a ticket.
theorem asked_of_answered (a : Attributed c pace g) {i : Nat} {e : Event}
    (mem : (i, e) ∈ g.service.queue.events) (answer : e.answer? = some (n, r)) :
    n < g.service.queue.asked := by
  have told := List.count_pos_iff.mpr (Queue.State.mem_answered mem answer)
  have once := a.recorded.ledger.once n
  have balance := a.recorded.ledger.balance n
  by_contra beyond
  rw [if_neg beyond] at once
  omega

-- An answer that a transaction was not seen is given when the wait was over.
theorem expired_of_missing (a : Attributed c pace g) {i b : Nat} {tx : Submitted}
    (told : (i, Event.answered n (.failed (.transactionMissing tx.hash))) ∈ g.service.queue.events)
    (returned : (b, Happening.returned n (.value tx)) ∈ g.history) :
    Expired c g.history n i := by
  rw [a.recorded.events] at told
  obtain ⟨later, earlier, split⟩ := List.append_of_mem (Queue.mem_said.mp told)
  have sent : (b, Happening.returned n (.value tx)) ∈ later ++ earlier := by
    rw [split] at returned
    simpa using returned
  obtain ⟨-, instant, opened, never⟩ :=
    (a.truthful later i _ earlier split n _ rfl).missing b tx tx.hash sent rfl
  exact ⟨later, _, earlier, _, b, tx, split, rfl, returned, instant, opened, never⟩

-- When a wait was over without a result, that is the answer, unless the worker was
-- lost at that instant.
theorem missing_of_expired (a : Attributed c pace g) {i : Nat} {e : Event}
    (mem : (i, e) ∈ g.service.queue.events) (answer : e.answer? = some (n, r))
    (expired : Expired c g.history n i) :
    (∃ hash, r = .failed (.transactionMissing hash)) ∨ r = .failed .missingResult := by
  obtain ⟨later, e', earlier, r', b, tx, split, answer', returned, -, opened, never⟩ := expired
  have told : (i, e') ∈ g.service.queue.events := by
    rw [a.recorded.events, split]
    exact Queue.mem_said.mpr (List.mem_append_right _ List.mem_cons_self)
  obtain ⟨-, rfl⟩ := Prod.mk.inj (a.recorded.ledger.answer_unique mem answer told answer')
  have truth := a.truthful later i e' earlier split n r answer'
  have sent : (b, Happening.returned n (.value tx)) ∈ later ++ earlier := by
    rw [split] at returned
    simpa using returned
  obtain rfl | rfl | rfl := truth.sent b tx sent
  · -- A transaction that counts as submitted was seen, or the queue was closed.
    obtain ⟨-, -, ⟨l, k, -, -, -, -, -, gone⟩ | ⟨k, closed⟩⟩ := truth.submitted tx rfl
    · exact absurd gone (never k tx l)
    · exact absurd closed (opened k)
  · exact Or.inl ⟨_, rfl⟩
  · exact Or.inr rfl

-- The wait for a caller who was turned away never began.
theorem unexpired_of_rejected (a : Attributed c pace g) {i j : Nat}
    (turned : (i, Event.rejected n) ∈ g.service.queue.events) : ¬Expired c g.history n j := by
  rintro ⟨later, e, earlier, r, b, tx, split, answer, -⟩
  have told : (j, e) ∈ g.service.queue.events := by
    rw [a.recorded.events, split]
    exact Queue.mem_said.mpr (List.mem_append_right _ List.mem_cons_self)
  -- A ticket is either turned away or accepted.
  have one := List.count_pos_iff.mpr (Queue.State.mem_answered told answer)
  have other := List.count_pos_iff.mpr
    (show n ∈ g.service.queue.rejected from List.mem_filterMap.mpr ⟨_, turned, rfl⟩)
  have once := a.recorded.ledger.once n
  have balance := a.recorded.ledger.balance n
  split at once <;> omega

-- An answer that nothing came of the submission is faithful.
theorem refusal_faithful {chain : ChainId} {raw : Bytes} {f : Failure}
    (posted : (n, chain, raw) ∈ g.posted)
    (status : statusOf f = 409 ∨ statusOf f = 502 ∨ statusOf f = 503)
    (unsent : statusOf f = 503 → ∀ x, (n, x) ∉ g.talks) (unexpired : ¬Expired c g.history n t) :
    Faithful c g n chain raw t (.ofFailure f) := by
  refine ⟨posted, Or.inl ?_, unsent, ?_, statusOf_eq_accepted f, fun _ => ?_⟩
  · obtain status | status | status := status <;> simp [status]
  · rw [Answer.status_ofFailure]
    intro submitted
    omega
  · rw [Answer.status_ofFailure]
    exact ⟨fun accepted => by omega, fun expired => absurd expired unexpired⟩

/-- The answer to a submission is faithful, whatever it is made from. -/
theorem answered_faithful (a : Attributed c pace g)
    (answered : (t, Event.answered n r) ∈ g.service.queue.events) :
    ∃ chain raw, Faithful c g n chain raw t (Service.answerSubmission (c.idOf n) r) := by
  have unknown := unknownOutcome_answerSubmission (c.idOf n) r
  obtain ⟨chain, raw, posted⟩ := a.posted_of_asked (a.asked_of_answered answered rfl)
  -- Other answers than these are not given at the end of a wait without a result.
  have unexpired (seen : ∀ hash, r ≠ .failed (.transactionMissing hash))
      (kept : r ≠ .failed .missingResult) : ¬Expired c g.history n t := by
    intro expired
    obtain ⟨hash, missing⟩ | lost := a.missing_of_expired answered rfl expired
    · exact seen hash missing
    · exact kept lost
  cases a.sourced t _ n r answered rfl with
  | closed unsent =>
    exact ⟨chain, raw, refusal_faithful posted (Or.inr (Or.inr rfl))
      (fun _ => a.silent unsent) (unexpired (by simp) (by simp))⟩
  | missing lost left =>
    have unpaced := (a.manned _ _ left).resolve_left lost
    exact ⟨chain, raw, posted, Or.inr ⟨rfl, unpaced⟩, by simp, by simp,
      unknown, fun status => absurd rfl status⟩
  | @failed b f returned =>
    cases a.brought b n _ returned with
    | failure status =>
      refine ⟨chain, raw, refusal_faithful posted (by omega) (fun closed => by omega)
        (unexpired ?_ ?_)⟩
      · rintro hash ⟨⟩
        simp at status
      · rintro ⟨⟩
        simp at status
  | seen returned =>
    cases a.brought _ n _ returned with
    | @value chain raw hash x posted said accepted =>
      obtain ⟨there, carries⟩ := a.carried posted said
      refine ⟨chain, raw, posted, by simp, by simp,
        fun _ => ⟨x, hash, said, there, carries, accepted, rfl⟩, unknown, fun _ => ?_⟩
      exact ⟨fun status => absurd status (by simp),
        fun expired => absurd expired (unexpired (by simp) (by simp))⟩
  | unseen returned =>
    exact ⟨chain, raw, posted, by simp, by simp, by simp, unknown,
      fun _ => ⟨fun _ => a.expired_of_missing answered returned, fun _ => rfl⟩⟩

/-- What a caller was told about a submission is faithful. -/
theorem told_faithful (a : Attributed c pace g)
    (told : Service.told? n g.service.queue.events = some (t, r)) :
    ∃ chain raw, Faithful c g n chain raw t (Service.answerSubmission (c.idOf n) r) := by
  obtain answered | ⟨turned, rfl⟩ := Service.told?_cases told
  · exact a.answered_faithful answered
  · obtain ⟨asked, unsent⟩ := a.of_rejected turned
    obtain ⟨chain, raw, posted⟩ := a.posted_of_asked asked
    exact ⟨chain, raw, refusal_faithful posted (Or.inr (Or.inr rfl))
      (fun _ => a.silent unsent) (a.unexpired_of_rejected turned)⟩

end Attributed

/-- The status of every request to submit a transaction agrees with what was sent, in
    every run, whatever the chains, their endpoints and the pace, and whenever a stop
    is asked for.

    The tries that handed a transaction over are the exchanges of the chronicle, each
    for one submission whose bytes it carried to its chain. A request that submits
    nothing is answered at once with 400, 404, 413, 415 or 422 and changes nothing at all;
    any other gets a ticket of its own. The answer to a ticket is faithful to what
    was sent for it. -/
theorem submissions_answered_faithfully (c : Setup σ) (pace : Pace σ) (f : Fleet) (world : σ)
    (untracked : List ChainId) (moves : List Move) :
    let g := (Chronicle.fresh f world untracked).play c pace moves
    g.service = (Service.fresh f world untracked).play c pace moves ∧
      (g.service.queue.outside.world.handed = g.talks.map fun x => x.2.made) ∧
      (∀ x ∈ g.talks, ∃ chain raw, (x.1, chain, raw) ∈ g.posted ∧ x.2.made.chain = chain ∧
        x.2.made.request = .sendRaw raw) ∧
      (g.posted.map Prod.fst).Nodup ∧
      (∀ q : Request, q.Posts →
        (∃ chain raw, q.Submits g.service.fleet chain raw ∧
          (g.service.handle c q).1 = .later g.service.queue.asked ∧
          (g.move c pace (.request q)).posted = (g.service.queue.asked, chain, raw) :: g.posted) ∨
        (∀ chain raw, ¬q.Submits g.service.fleet chain raw) ∧
          ∃ answer, g.service.handle c q = (.now answer, g.service) ∧
            g.move c pace (.request q) = g ∧ answer.status ∈ [400, 404, 413, 415, 422] ∧
            answer.unknownOutcome = false) ∧
      ∀ n t answer, g.service.answer? c n = some (t, answer) →
        ∃ chain raw, Faithful c g n chain raw t answer := by
  intro g
  have a := Attributed.play c pace f world untracked moves
  refine ⟨Chronicle.service_play c pace moves _, a.handed, fun x mem => (a.talks x mem).2,
    a.tickets_nodup, ?_, ?_⟩
  · intro q posts
    cases submits : q.submission? g.service.fleet with
    | some x =>
      obtain ⟨chain, raw⟩ := x
      have made := Request.submission?_eq_some.mp submits
      refine Or.inl ⟨chain, raw, made, ?_, ?_⟩
      · rw [Service.handle_submission made]
      · simp [Chronicle.move, Service.submitted?, submits]
    | none =>
      obtain ⟨answer, same, status, known⟩ := Service.take_rejected (c := c) posts submits
      refine Or.inr ⟨fun chain raw made => ?_, answer, ?_, ?_, by simpa using status, known⟩
      · rw [Request.submission?_eq_some.mpr made] at submits
        exact absurd submits (by simp)
      · rw [← same]
        simp only [Service.take, submits]
      · exact Chronicle.move_rejected submits (by rw [same])
  · intro n t answer given
    obtain ⟨⟨t', r⟩, told, same⟩ := Option.map_eq_some_iff.mp given
    obtain ⟨rfl, rfl⟩ := Prod.mk.inj same
    exact a.told_faithful told

end Api

end TxRelay
