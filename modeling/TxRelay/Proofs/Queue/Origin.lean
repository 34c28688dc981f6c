import TxRelay.Proofs.Queue.Answers

/-!
# Where Answers Come From

A judgement of an answer says what the history has to hold if the answer is to be
true. It does not say that the answer was made from anything: a transaction that
nobody sent could be reported as missing, and no judgement would object. `Origin`
lists what answers are made from. There are five of them, and every answer that a
run ever gives is one of the five (`Sourced`).

An answer that the queue was closed comes from the drain, which reaches only what
was never sent. That stays so afterwards, because what is answered is not stored any
more and only what is stored is sent.

## Main definitions

* `Queue.Origin`: What an answer is made from.
* `Queue.Sourced`: Every answer has an origin.

## Theorems

* `Queue.Step.mem_sent`: A step sends only what is stored.
* `Queue.Sourced.kept`: Every step gives answers that have an origin.
* `Queue.Recorded.outside`, `Sourced.outside`: A change of the chains changes none of
  this.
-/

namespace TxRelay

namespace Queue

variable {σ : Type} {q : Setup σ} {s t : State σ} {h history : List (Nat × Happening)}

-- A submission is answered once.
theorem Ledger.answer_unique (l : Ledger s) {n i j : Nat} {r r' : Response} {e e' : Event}
    (mem : (i, e) ∈ s.events) (answer : e.answer? = some (n, r)) (mem' : (j, e') ∈ s.events)
    (answer' : e'.answer? = some (n, r')) : (i, r) = (j, r') := by
  have tell {f : Event} {u : Response} (here : f.answer? = some (n, u)) :
      f.answered? = some n := by
    cases f with
    | answered m u' => exact congrArg (Option.map Prod.fst) here
    | unheard m u' => exact congrArg (Option.map Prod.fst) here
    | _ => exact absurd here (by simp [Event.answer?])
  have once : s.answered.count n ≤ 1 := by
    have accepted := l.accepted_le n
    have balance := l.balance n
    omega
  unfold State.answered at once
  rw [List.count_filterMap, List.countP_eq_length_filter] at once
  have both {k : Nat} {f : Event} {u : Response} (here : (k, f) ∈ s.events)
      (told : f.answer? = some (n, u)) :
      (k, f) ∈ s.events.filter fun x => x.2.answered? == some n :=
    List.mem_filter.mpr ⟨here, by simp [tell told]⟩
  have one := both mem answer
  have other := both mem' answer'
  obtain ⟨x, alone⟩ := List.length_eq_one_iff.mp
    (Nat.le_antisymm once (List.length_pos_of_mem one))
  rw [alone, List.mem_singleton] at one other
  obtain ⟨rfl, rfl⟩ := Prod.mk.inj (one.trans other.symm)
  rw [(Prod.mk.inj (Option.some.inj (answer.symm.trans answer'))).2]

/-- What an answer to a submission is made from. -/
inductive Origin (s : State σ) (history : List (Nat × Happening)) (n : Nat) : Response → Prop where
  /-- The queue was closed before the submission was sent. -/
  | closed (unsent : n ∉ s.sent) : Origin s history n (.failed .queueClosed)
  /-- The worker was lost. -/
  | missing {i : Nat} {how : Ending} (lost : how ≠ .finished)
      (left : (i, Happening.left how) ∈ history) : Origin s history n (.failed .missingResult)
  /-- The send operation failed. -/
  | failed {b : Nat} {f : Failure} (returned : (b, Happening.returned n (.failure f)) ∈ history) :
      Origin s history n (.failed f)
  /-- The transaction was sent. -/
  | seen {b : Nat} {tx : Submitted} (returned : (b, Happening.returned n (.value tx)) ∈ history) :
      Origin s history n (.submitted tx)
  /-- The transaction was sent, and not seen leaving the pending pool. -/
  | unseen {b : Nat} {tx : Submitted}
      (returned : (b, Happening.returned n (.value tx)) ∈ history) :
      Origin s history n (.failed (.transactionMissing tx.hash))

/-- Every answer that was given has an origin. -/
def Sourced (s : State σ) (history : List (Nat × Happening)) : Prop :=
  ∀ i e n r, (i, e) ∈ s.events → e.answer? = some (n, r) → Origin s history n r

/-- A step sends only what was stored. -/
theorem Step.mem_sent (step : Step q s h t) {n : Nat} (sent : n ∈ t.sent) :
    n ∈ s.sent ∨ ∃ e ∈ s.buffer, e.ticket = n := by
  have quiet (same : t.outside.acts = s.outside.acts) :
      n ∈ s.sent ∨ ∃ e ∈ s.buffer, e.ticket = n := by
    refine Or.inl ?_
    unfold State.sent Surroundings.sent at sent ⊢
    rwa [same] at sent
  cases step with
  | start | lineUp | leaveLine | depart | dropHandle | wait => exact quiet rfl
  | turnAway | accept | store => exact quiet (Surroundings.acts_measure _ _)
  | close held running =>
    obtain ⟨m, shape⟩ := s.close_shape
    exact quiet (by rw [shape]; rfl)
  | lose alive =>
    obtain ⟨m, shape⟩ := s.leave_shape s.loss
    exact quiet (by rw [shape]; rfl)
  | @take e rest stage opened buffer =>
    rw [State.sent_of_acts (acts_receive q e rest s)] at sent
    obtain new | old := List.mem_append.mp sent
    · refine Or.inr ⟨e, by simp [buffer], ?_⟩
      unfold Entry.opening at new
      cases send : e.send <;> simp_all [Act.sent?]
    · exact Or.inl old
  | goesOn flight acts calm => exact Or.inl (Ledger.sent_of_flight flight ▸ sent)
  | isOver flight calm => exact quiet flight.acts_over
  | @crashes n i d o text flight calm =>
    obtain ⟨m, shape⟩ := (s.after i o).leave_shape (.crashed text)
    exact quiet (by rw [shape]; exact flight.acts_crash)
  | drain stage closed =>
    obtain ⟨m, shape⟩ := s.drain_shape (by rw [stage]; rfl)
    exact quiet (by rw [shape]; rfl)
  | finish stage opened buffer held waiters =>
    obtain ⟨m, shape⟩ := s.leave_shape .finished
    exact quiet (by rw [shape]; rfl)

namespace State

variable {n : Nat} {r : Response} {i : Nat} {e : Event}

-- A caller who is turned away is not answered.
theorem unanswered_of_refusals {tickets : List Nat} (mem : (i, e) ∈ s.refusals tickets) :
    e.answer? = none := by
  obtain ⟨m, -, same⟩ := List.mem_map.mp (List.mem_reverse.mp mem)
  rw [← (Prod.mk.inj same).2]
  rfl

-- Several submissions are answered alike.
theorem answer?_of_replies {tickets : List Nat} {r' : Response}
    (mem : (i, e) ∈ s.replies r' tickets) (answer : e.answer? = some (n, r)) :
    n ∈ tickets ∧ r = r' := by
  obtain ⟨m, here, same⟩ := List.mem_map.mp (List.mem_reverse.mp mem)
  rw [← (Prod.mk.inj same).2, answer?_reply] at answer
  obtain ⟨rfl, rfl⟩ := Prod.mk.inj (Option.some.inj answer)
  exact ⟨here, rfl⟩

end State

namespace Origin

variable {n : Nat} {r : Response}

-- An origin stays one, unless the submission is sent.
theorem mono (origin : Origin s history n r) (sent : n ∈ t.sent → n ∈ s.sent) :
    Origin t (h ++ history) n r := by
  cases origin with
  | closed unsent => exact .closed fun now => unsent (sent now)
  | missing lost left => exact .missing lost (List.mem_append_right h left)
  | failed returned => exact .failed (List.mem_append_right h returned)
  | seen returned => exact .seen (List.mem_append_right h returned)
  | unseen returned => exact .unseen (List.mem_append_right h returned)

/-- The answer at the end of the work on a submission has an origin. -/
theorem of_over {i : Nat} {d : Option Happening} {o : Surroundings σ}
    (known : Recorded q s history) (flight : Flight q s n i d o (.answered r)) (j : Nat) :
    Origin t ((d.toList.map fun x => (j, x)) ++ history) n r := by
  cases flight with
  | failed returns => exact .failed List.mem_cons_self
  | sentLate returns closed => exact .seen List.mem_cons_self
  | abandoned stage closed => exact .seen (known.confirming n _ _ stage).returned
  | settled stage opened answer =>
    exact .seen (List.mem_cons_of_mem _ (known.confirming n _ _ stage).returned)
  | gaveUp stage opened limit => exact .unseen (known.confirming n _ _ stage).returned

end Origin

namespace Sourced

theorem fresh (world : σ) : Sourced (State.fresh (.fresh world)) [] :=
  fun _ _ _ _ mem => absurd mem List.not_mem_nil

-- A worker that is lost leaves answers missing, and they come from that.
theorem of_lost {n i k : Nat} {r : Response} {e : Event} {how : Ending} {u v : State σ}
    {line hand : List Nat} {later : List (Nat × Happening)} (lost : how ≠ .finished)
    (mem : (i, e) ∈ u.refusals line ++ u.replies (.failed .missingResult) hand)
    (answer : e.answer? = some (n, r)) :
    Origin v ((k, .left how) :: later) n r := by
  obtain mem | mem := List.mem_append.mp mem
  · exact absurd (State.unanswered_of_refusals mem) (by simp [answer])
  · obtain ⟨-, rfl⟩ := State.answer?_of_replies mem answer
    exact .missing lost List.mem_cons_self

/-- Every step gives answers that have an origin, and leaves older ones theirs. -/
theorem kept (step : Step q s h t) (known : Recorded q s history) (sourced : Sourced s history) :
    Sourced t (h ++ history) := by
  intro i e n r mem answer
  rw [step.said_eq] at mem
  obtain new | old := List.mem_append.mp mem
  · have silent (nothing : said h = []) : Origin t (h ++ history) n r := by
      rw [nothing] at new
      exact absurd new List.not_mem_nil
    have refused {f : Event} (same : said h = [(i, f)]) (none : f.answer? = none) :
        Origin t (h ++ history) n r := by
      rw [same] at new
      obtain rfl := (Prod.mk.inj (List.mem_singleton.mp new)).2
      exact absurd none (by simp [answer])
    cases step with
    | start | lineUp | leaveLine | depart | dropHandle | finish | wait => exact silent rfl
    | turnAway | accept | store =>
      obtain ⟨rfl, rfl⟩ := Prod.mk.inj (List.mem_singleton.mp new)
      exact refused rfl rfl
    | close held running =>
      rw [said_append, said_toldAll] at new
      obtain new | new := List.mem_append.mp new
      · exact absurd (State.unanswered_of_refusals new) (by simp [answer])
      · exact absurd new List.not_mem_nil
    | take stage opened buffer => exact silent (said_didAll _)
    | goesOn flight acts calm =>
      exact silent (by rw [said_append, said_didAll, flight.said_deed]; rfl)
    | lose alive =>
      have told : (i, e) ∈ said (State.toldAll _) := new
      rw [said_toldAll] at told
      refine of_lost ?_ told answer
      unfold State.loss
      cases s.stage <;> simp
    | @isOver m j d o r' flight calm =>
      obtain new | new := List.mem_cons.mp new
      · rw [(Prod.mk.inj new).2, State.answer?_reply] at answer
        obtain ⟨rfl, rfl⟩ := Prod.mk.inj (Option.some.inj answer)
        exact (Origin.of_over known flight _).mono (h := [_]) fun same => same
      · rw [show List.filterMap _ _ = said _ from rfl, flight.said_deed] at new
        exact absurd new List.not_mem_nil
    | @crashes m j d o text flight calm =>
      rw [said_append, flight.said_deed, List.append_nil] at new
      have told : (i, e) ∈ said (State.toldAll _) := new
      rw [said_toldAll] at told
      exact of_lost (by simp) told answer
    | drain stage closed =>
      have told : (i, e) ∈ said (State.toldAll _) := new
      rw [said_toldAll] at told
      obtain told | told := List.mem_append.mp told
      · exact absurd (State.unanswered_of_refusals told) (by simp [answer])
      · -- What is stored was not sent, and the drain sends nothing.
        obtain ⟨stored, rfl⟩ := State.answer?_of_replies told answer
        obtain ⟨x, mem, rfl⟩ := List.mem_map.mp stored
        obtain ⟨m, shape⟩ := s.drain_shape (by rw [stage]; rfl)
        refine .closed ?_
        rw [shape]
        exact Recorded.not_sent_of_mem known.ledger mem
  · -- What was answered is not sent any more.
    refine (sourced i e n r old answer).mono fun sent => ?_
    obtain before | ⟨x, stored, rfl⟩ := step.mem_sent sent
    · exact before
    · refine absurd (List.mem_append_right _ ?_) (known.ledger.not_inHand old answer)
      exact List.mem_map.mpr ⟨x, stored, rfl⟩

end Sourced

section Outside

variable {o : Surroundings σ}

-- What is done for whom does not depend on the chains.
theorem State.sent_outside (acts : o.acts = s.outside.acts) :
    State.sent { s with outside := o } = s.sent := by
  unfold sent Surroundings.sent
  rw [acts]

/-- The record does not speak of the chains. -/
theorem Recorded.outside (r : Recorded q s history) (acts : o.acts = s.outside.acts) :
    Recorded q { s with outside := o } history := by
  have sent := s.sent_outside acts
  refine ⟨?_, r.punctual, r.events, acts.trans r.acts, ?_, r.closed, ?_, ?_, r.sending,
    r.confirming⟩
  · exact r.ledger.of_quiet rfl sent rfl rfl (fun _ => Nat.le_refl _) rfl (List.Subset.refl _)
  · show Queue.lookups o.acts = inquiries history
    rw [acts]
    exact r.lookups
  · rw [sent]
    exact r.begun
  · rw [sent]
    exact r.unsent

-- Answers keep their origins when only the chains change.
theorem Sourced.outside (sourced : Sourced s history) (acts : o.acts = s.outside.acts) :
    Sourced { s with outside := o } history :=
  fun i e n r mem answer =>
    (sourced i e n r mem answer).mono (h := []) fun sent => s.sent_outside acts ▸ sent

end Outside

end Queue

end TxRelay
