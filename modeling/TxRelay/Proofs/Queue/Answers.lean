import TxRelay.Proofs.Queue.Record

/-!
# Answers Are True

An answer is true if it agrees with what the history knows about its own
submission: how its send operation ended, which lookups were made for it and
what they found, whether the queue was closed and whether the worker was lost.
`Truth` lists what each answer owes to the history, `answers_truthful` says that
every answer in every run pays it.

An answer is judged when it is given, and nothing is learned about a submission
after its answer, so the judgement stands. There are three ways to get one: from
the step that ends the work on it, from a worker that leaves answers missing, and
from the drain of a closed queue.

## Main definitions

* `Queue.Settled`: A lookup found a transaction gone in time.
* `Queue.Truth`: What an answer owes to the history.

## Theorems

* `Queue.Truth.of_over`: The answer at the end of the work is true.
* `Queue.Truth.kept`: A judgement stands.
* `Queue.answers_truthful`: Every answer in every run is true.
-/

namespace TxRelay

namespace Queue

variable {σ : Type} {q : Setup σ} {s t : State σ} {h history : List (Nat × Happening)}

/-- The ticket that an event answers, and the answer. -/
def Event.answer? : Event → Option (Nat × Response)
  | .answered n r => some (n, r)
  | .unheard n r => some (n, r)
  | _ => none

-- An answer is that answer, heard or not.
theorem State.answer?_reply (n : Nat) (r : Response) (s : State σ) :
    (s.reply n r).answer? = some (n, r) := by
  unfold reply
  split <;> rfl

-- An answer is among the answers.
theorem State.mem_answered {n i : Nat} {r : Response} {e : Event} (mem : (i, e) ∈ s.events)
    (answer : e.answer? = some (n, r)) : n ∈ s.answered := by
  refine List.mem_filterMap.mpr ⟨_, mem, ?_⟩
  cases e with
  | answered m r' => exact congrArg (Option.map Prod.fst) answer
  | unheard m r' => exact congrArg (Option.map Prod.fst) answer
  | _ => exact absurd answer (by simp only [Event.answer?, reduceCtorEq, not_false_eq_true])

-- What was answered is not in hand any more.
theorem Ledger.not_inHand (l : Ledger s) {n i : Nat} {r : Response} {e : Event}
    (mem : (i, e) ∈ s.events) (answer : e.answer? = some (n, r)) : n ∉ s.inHand := by
  intro hand
  -- A ticket in both places would have been accepted twice.
  have once := l.accepted_le n
  have balance := l.balance n
  have one := List.count_pos_iff.mpr (State.mem_answered mem answer)
  have other := List.count_pos_iff.mpr hand
  omega

/-- A lookup of a transaction, made for a submission after its send operation
    ended at `b`, found it no longer pending within the limit of the wait. -/
def Settled (q : Setup σ) (n b : Nat) (tx : Submitted) (history : List (Nat × Happening)) : Prop :=
  ∃ l e, b ≤ l ∧ l ≤ e ∧ e ≤ b + q.plan.limit ∧
    (l, Happening.asked n tx) ∈ history ∧
    (l, Happening.did (.lookup tx.chain tx.hash)) ∈ history ∧
    (e, Happening.heard n tx l (.value false)) ∈ history

/-- What the answer `r` that submission `n` gets at `a` owes to the history, of
    which `earlier` is the part before the answer and `later` the part after it. -/
structure Truth (q : Setup σ) (later earlier : List (Nat × Happening)) (a n : Nat)
    (r : Response) : Prop where
  /-- A send operation that failed is answered with its failure, and nothing was
      ever looked up for it. -/
  failed : ∀ b f, (b, Happening.returned n (.failure f)) ∈ later ++ earlier →
    r = .failed f ∧ ∀ l tx, (l, Happening.asked n tx) ∉ later ++ earlier
  /-- A transaction that was sent is answered with that transaction, with its
      hash, or not at all. -/
  sent : ∀ b tx, (b, Happening.returned n (.value tx)) ∈ later ++ earlier →
    r = .submitted tx ∨ r = .failed (.transactionMissing tx.hash) ∨ r = .failed .missingResult
  /-- A transaction counts as submitted if it was sent, and was found no longer
      pending or the queue was closed. -/
  submitted : ∀ tx, r = .submitted tx → ∃ b, (b, Happening.returned n (.value tx)) ∈ earlier ∧
    (Settled q n b tx earlier ∨ ∃ i, (i, Happening.closed) ∈ earlier)
  /-- A transaction that was sent counts as missing exactly at the limit, if the
      queue was not closed and no lookup found it gone. -/
  missing : ∀ b tx hash, (b, Happening.returned n (.value tx)) ∈ later ++ earlier →
    r = .failed (.transactionMissing hash) →
    hash = tx.hash ∧ a = b + q.plan.limit ∧ (∀ i, (i, Happening.closed) ∉ earlier) ∧
      ∀ i tx' l, (i, Happening.heard n tx' l (.value false)) ∉ earlier
  /-- What was never sent is answered as closed, after a shutdown, or not at
      all. -/
  unsent : (∀ i, (i, Happening.did (.send n)) ∉ later ++ earlier) →
    (r = .failed .queueClosed ∧ ∃ i, (i, Happening.closed) ∈ earlier) ∨
      r = .failed .missingResult
  /-- An answer is missing only if the send operation itself failed so, or if the
      worker is lost at that instant. -/
  lost : r = .failed .missingResult →
    (∃ b, (b, Happening.returned n (.failure .missingResult)) ∈ earlier) ∨
      ∃ how, how ≠ .finished ∧ (a, Happening.left how) ∈ later

namespace Truth

variable {later earlier : List (Nat × Happening)} {a n : Nat} {r : Response}

-- What is known about a submission was known before, if nothing was learned.
theorem mem_of_learned {x : Nat × Happening} (other : learned n h = [])
    (mem : x ∈ h ++ history) (about : x.2.about? = some n) : x ∈ history := by
  rcases List.mem_append.mp mem with new | old
  · exact absurd new (not_mem_of_learned other about)
  · exact old

/-- A judgement stands when nothing more is learned about the submission. -/
theorem kept (truth : Truth q later earlier a n r) (other : learned n h = []) :
    Truth q (h ++ later) earlier a n r := by
  have before {x : Nat × Happening} (mem : x ∈ h ++ later ++ earlier)
      (about : x.2.about? = some n) : x ∈ later ++ earlier := by
    rw [List.append_assoc] at mem
    exact mem_of_learned other mem about
  refine ⟨?_, ?_, truth.submitted, ?_, ?_, ?_⟩
  · intro b f returned
    rcases truth.failed b f (before returned rfl) with ⟨same, never⟩
    exact ⟨same, fun l tx asked => never l tx (before asked rfl)⟩
  · exact fun b tx returned => truth.sent b tx (before returned rfl)
  · exact fun b tx hash returned => truth.missing b tx hash (before returned rfl)
  · intro never
    refine truth.unsent fun i did => never i ?_
    rw [List.append_assoc]
    exact List.mem_append_right h did
  · intro missing
    rcases truth.lost missing with failure | ⟨how, lost, left⟩
    · exact Or.inl failure
    · exact Or.inr ⟨how, lost, List.mem_append_right h left⟩

-- The answer to a send operation that failed.
theorem of_failure {b : Nat} {f : Failure}
    (returned : (b, Happening.returned n (.failure f)) ∈ earlier)
    (only : ∀ x ∈ learned n (later ++ earlier), x = (b, .returned n (.failure f)))
    (did : ∃ i, (i, Happening.did (.send n)) ∈ earlier) :
    Truth q later earlier a n (.failed f) := by
  have known {x : Nat × Happening} (mem : x ∈ later ++ earlier) (about : x.2.about? = some n) :
      x = (b, .returned n (.failure f)) := only x (mem_learned.mpr ⟨mem, about⟩)
  have valueless (c : Nat) (tx : Submitted) :
      (c, Happening.returned n (.value tx)) ∉ later ++ earlier := by
    intro mem
    exact absurd (Prod.ext_iff.mp (known mem rfl)).2
      (by simp only [Happening.returned.injEq, reduceCtorEq, and_false, not_false_eq_true])
  refine ⟨?_, ?_, ?_, ?_, ?_, ?_⟩
  · intro c g mem
    refine ⟨?_, ?_⟩
    · have same := (Prod.ext_iff.mp (known mem rfl)).2
      rw [Outcome.failure.inj (Happening.returned.inj same).2]
    · intro l tx asked
      exact absurd (Prod.ext_iff.mp (known asked rfl)).2
        (by simp only [reduceCtorEq, not_false_eq_true])
  · exact fun c tx mem => absurd mem (valueless c tx)
  · exact fun tx same => absurd same (by simp only [reduceCtorEq, not_false_eq_true])
  · exact fun c tx hash mem _ => absurd mem (valueless c tx)
  · intro never
    rcases did with ⟨i, did⟩
    exact absurd (List.mem_append_right later did) (never i)
  · intro same
    rw [Response.failed.inj same] at returned
    exact Or.inl ⟨b, returned⟩

-- An answer about a transaction that was sent, when nothing else is known about
-- its send operation.
theorem of_value {b : Nat} {tx : Submitted}
    (once : ∀ c outcome, (c, Happening.returned n outcome) ∈ later ++ earlier →
      c = b ∧ outcome = .value tx)
    (did : ∃ i, (i, Happening.did (.send n)) ∈ earlier)
    (answer : r = .submitted tx ∧ (b, Happening.returned n (.value tx)) ∈ earlier ∧
        (Settled q n b tx earlier ∨ ∃ i, (i, Happening.closed) ∈ earlier) ∨
      r = .failed (.transactionMissing tx.hash) ∧ a = b + q.plan.limit ∧
        (∀ i, (i, Happening.closed) ∉ earlier) ∧
        ∀ i tx' l, (i, Happening.heard n tx' l (.value false)) ∉ earlier) :
    Truth q later earlier a n r := by
  refine ⟨?_, ?_, ?_, ?_, ?_, ?_⟩
  · intro c f mem
    exact absurd (once c _ mem).2 (by simp only [reduceCtorEq, not_false_eq_true])
  · intro c tx' mem
    rw [Outcome.value.inj (once c _ mem).2]
    rcases answer with ⟨submitted, -⟩ | ⟨missing, -⟩
    · exact Or.inl submitted
    · exact Or.inr (Or.inl missing)
  · intro tx' same
    rcases answer with ⟨submitted, returned, why⟩ | ⟨missing, -⟩
    · rw [Response.submitted.inj (same.symm.trans submitted)]
      exact ⟨b, returned, why⟩
    · exact absurd (same.symm.trans missing) (by simp only [reduceCtorEq, not_false_eq_true])
  · intro c tx' hash mem same
    rcases once c _ mem with ⟨rfl, value⟩
    rcases answer with ⟨submitted, -⟩ | ⟨missing, why⟩
    · exact absurd (same.symm.trans submitted) (by simp only [reduceCtorEq, not_false_eq_true])
    · rw [Outcome.value.inj value]
      exact ⟨Failure.transactionMissing.inj (Response.failed.inj (same.symm.trans missing)), why⟩
  · intro never
    rcases did with ⟨i, did⟩
    exact absurd (List.mem_append_right later did) (never i)
  · intro same
    rcases answer with ⟨submitted, -⟩ | ⟨missing, -⟩
    · exact absurd (same.symm.trans submitted) (by simp only [reduceCtorEq, not_false_eq_true])
    · exact absurd (Response.failed.inj (same.symm.trans missing))
        (by simp only [reduceCtorEq, not_false_eq_true])

-- The answer to what a closed queue still stored.
theorem of_closed (closed : ∃ i, (i, Happening.closed) ∈ earlier)
    (unknown : learned n (later ++ earlier) = []) :
    Truth q later earlier a n (.failed .queueClosed) := by
  have nothing {b : Nat} {outcome : Outcome Submitted} :
      (b, Happening.returned n outcome) ∉ later ++ earlier := not_mem_of_learned unknown rfl
  refine ⟨fun _ _ mem => absurd mem nothing, fun _ _ mem => absurd mem nothing, ?_,
    fun _ _ _ mem _ => absurd mem nothing, fun _ => Or.inl ⟨rfl, closed⟩, ?_⟩
  · exact fun tx same => absurd same (by simp only [reduceCtorEq, not_false_eq_true])
  · exact fun same => absurd same
      (by simp only [Response.failed.injEq, reduceCtorEq, not_false_eq_true])

-- The answer that a lost worker leaves missing.
theorem of_lost {how : Ending} (lost : how ≠ .finished) (left : (a, Happening.left how) ∈ later)
    (unfailed : ∀ b f, (b, Happening.returned n (.failure f)) ∉ later ++ earlier) :
    Truth q later earlier a n (.failed .missingResult) := by
  refine ⟨fun b f mem => absurd mem (unfailed b f), fun _ _ _ => Or.inr (Or.inr rfl), ?_, ?_,
    fun _ => Or.inr rfl, fun _ => Or.inr ⟨how, lost, left⟩⟩
  · exact fun tx same => absurd same (by simp only [reduceCtorEq, not_false_eq_true])
  · exact fun b tx hash _ same => absurd same
      (by simp only [Response.failed.injEq, reduceCtorEq, not_false_eq_true])

end Truth

-- The end of the send operation is known once, during a wait.
theorem Watching.once {n began : Nat} {wait : Confirmation.Wait}
    (w : Watching q n began wait history) {b : Nat} {outcome : Outcome Submitted}
    (mem : (b, Happening.returned n outcome) ∈ history) :
    b = began ∧ outcome = .value wait.tx := by
  rcases w.only _ (mem_learned.mpr ⟨mem, rfl⟩) with same | ⟨i, -, same⟩ | ⟨i, l, heard, -, same⟩
  · rcases Prod.ext_iff.mp same with ⟨instant, same⟩
    exact ⟨instant, (Happening.returned.inj same).2⟩
  · exact absurd (Prod.ext_iff.mp same).2 (by simp only [reduceCtorEq, not_false_eq_true])
  · exact absurd (Prod.ext_iff.mp same).2 (by simp only [reduceCtorEq, not_false_eq_true])

-- No lookup found the transaction gone, during a wait.
theorem Watching.not_gone {n began : Nat} {wait : Confirmation.Wait}
    (w : Watching q n began wait history) (i : Nat) (tx : Submitted) (l : Nat) :
    (i, Happening.heard n tx l (.value false)) ∉ history := by
  intro mem
  rcases w.only _ (mem_learned.mpr ⟨mem, rfl⟩) with same | ⟨j, -, same⟩ |
    ⟨j, m, heard, pending, same⟩
  · exact absurd (Prod.ext_iff.mp same).2 (by simp only [reduceCtorEq, not_false_eq_true])
  · exact absurd (Prod.ext_iff.mp same).2 (by simp only [reduceCtorEq, not_false_eq_true])
  · exact pending (Happening.heard.inj (Prod.ext_iff.mp same).2).2.2.2.symm

namespace Recorded

variable {n : Nat}

-- The send operation that begins is written down.
theorem did_of_sent (r : Recorded q s history) (sent : n ∈ s.sent) :
    ∃ i, (i, Happening.did (.send n)) ∈ history := by
  unfold State.sent Surroundings.sent at sent
  rw [r.acts] at sent
  rcases List.mem_filterMap.mp sent with ⟨⟨i, a⟩, mem, send⟩
  cases a with
  | send m =>
    rw [show m = n from Option.some.inj send] at mem
    exact ⟨i, mem_done.mp mem⟩
  | _ => exact absurd send (by simp only [Act.sent?, reduceCtorEq, not_false_eq_true])

-- Nothing is known about a submission whose send operation ends just now.
theorem unknown_of_returns (r : Recorded q s history) {i : Nat} {outcome : Outcome Submitted}
    {o : Surroundings σ} (returns : Returns q s n i outcome o) : learned n history = [] := by
  rcases returns.sending with ⟨operation, stage⟩
  exact r.sending n operation stage

-- What is in hand did not fail to be sent.
theorem unfailed (r : Recorded q s history) (hand : n ∈ s.inHand) (b : Nat) (f : Failure) :
    (b, Happening.returned n (.failure f)) ∉ history := by
  have nothing (unknown : learned n history = []) :
      (b, Happening.returned n (.failure f)) ∉ history := not_mem_of_learned unknown rfl
  rcases List.mem_append.mp hand with flight | stored
  · rw [Option.mem_toList] at flight
    rcases stage : s.stage with _ | _ | ⟨m, operation⟩ | ⟨m, began, wait⟩ | how
    all_goals
      rw [stage] at flight
    · exact absurd flight (by simp only [Stage.ticket?, reduceCtorEq, not_false_eq_true])
    · exact absurd flight (by simp only [Stage.ticket?, reduceCtorEq, not_false_eq_true])
    · rw [show m = n from Option.some.inj flight] at stage
      exact nothing (r.sending n operation stage)
    · rw [show m = n from Option.some.inj flight] at stage
      intro mem
      exact absurd ((r.confirming n began wait stage).once mem).2
        (by simp only [reduceCtorEq, not_false_eq_true])
    · exact absurd flight (by simp only [Stage.ticket?, reduceCtorEq, not_false_eq_true])
  · rcases List.mem_map.mp stored with ⟨e, mem, rfl⟩
    exact nothing (r.unsent e.ticket (not_sent_of_mem r.ledger mem))

end Recorded

namespace Truth

variable {n i : Nat} {d : Option Happening} {o : Surroundings σ} {r : Response}

/-- The answer at the end of the work on a submission is true. -/
theorem of_over (known : Recorded q s history) (flight : Flight q s n i d o (.answered r)) :
    Truth q [] ((d.toList.map fun x => (max s.now i, x)) ++ history) (max s.now i) n r := by
  have did : ∃ j, (j, Happening.did (.send n)) ∈
      (d.toList.map fun x => (max s.now i, x)) ++ history := by
    rcases known.did_of_sent (known.begun n flight.ticket?) with ⟨j, mem⟩
    exact ⟨j, List.mem_append_right _ mem⟩
  have due := known.punctual.now_flight flight
  cases flight with
  | failed returns =>
    -- The failure is all that is known.
    refine of_failure List.mem_cons_self ?_ did
    intro x mem
    rw [List.nil_append, learned_append, known.unknown_of_returns returns, List.append_nil] at mem
    exact List.mem_singleton.mp (List.mem_filter.mp mem).1
  | sentLate returns closed =>
    rename_i tx _
    refine of_value (b := max s.now i) ?_ did (Or.inl ⟨rfl, List.mem_cons_self, ?_⟩)
    · intro c outcome mem
      rcases List.mem_cons.mp mem with same | mem
      · rcases Prod.ext_iff.mp same with ⟨instant, same⟩
        exact ⟨instant, (Happening.returned.inj same).2⟩
      · exact absurd mem (not_mem_of_learned (known.unknown_of_returns returns) rfl)
    · rcases known.closed.mp closed with ⟨j, mem⟩
      exact Or.inr ⟨j, List.mem_append_right _ mem⟩
  | abandoned stage closed =>
    rename_i began wait
    have watching := known.confirming n began wait stage
    refine of_value (fun c outcome mem => watching.once mem) did
      (Or.inl ⟨rfl, watching.returned, Or.inr (known.closed.mp closed)⟩)
  | settled stage opened answer =>
    rename_i began wait
    have watching := known.confirming n began wait stage
    have instant : wait.due = i := congrArg Confirmation.Wait.Next.instant answer
    -- The lookup was made at the last step of the wait, and is answered at this one.
    rcases Confirmation.Wait.asking_of_answer answer with ⟨call, phase⟩
    rcases watching.asking call phase with ⟨asked, looked⟩
    refine of_value (b := began) ?_ did
      (Or.inl ⟨rfl, List.mem_cons_of_mem _ watching.returned, Or.inl ?_⟩)
    · intro c outcome mem
      rcases List.mem_cons.mp mem with same | mem
      · exact absurd (Prod.ext_iff.mp same).2 (by simp only [reduceCtorEq, not_false_eq_true])
      · exact watching.once mem
    · refine ⟨wait.since, i, watching.began_le, instant ▸ wait.since_le_due, ?_,
        List.mem_cons_of_mem _ asked, List.mem_cons_of_mem _ looked, ?_⟩
      · rw [← instant, ← watching.deadline]
        exact Confirmation.Wait.due_le_deadline watching.timely
      · rw [due]
        exact List.mem_cons_self
  | gaveUp stage opened limit =>
    rename_i began wait
    have watching := known.confirming n began wait stage
    refine of_value (b := began) (fun c outcome mem => watching.once mem) did
      (Or.inr ⟨rfl, ?_, ?_, watching.not_gone⟩)
    · rw [due, Confirmation.Wait.next_giveUp watching.timely limit, watching.deadline]
    · -- A closed queue would not have waited so long.
      intro j closed
      have shut := known.closed.mpr ⟨j, closed⟩
      rw [opened] at shut
      exact Bool.noConfusion shut

end Truth

-- A step that takes the worker down is not the failure of a send operation.
theorem Flight.unfailed_crash {n i : Nat} {d : Option Happening} {o : Surroundings σ}
    {text : String} (flight : Flight q s n i d o (.crash text)) (m : Nat) (f : Failure)
    (j b : Nat) : (b, Happening.returned m (.failure f)) ∉ d.toList.map fun x => (j, x) := by
  intro mem
  cases flight <;> exact absurd (Prod.mk.inj (List.mem_singleton.mp mem)).2
    (by simp only [Happening.returned.injEq, reduceCtorEq, and_false, not_false_eq_true])

/-- Every answer in a history is true. -/
def Truthful (q : Setup σ) (history : List (Nat × Happening)) : Prop :=
  ∀ later a e earlier, history = later ++ (a, Happening.told e) :: earlier →
    ∀ n r, e.answer? = some (n, r) → Truth q later earlier a n r

namespace Truthful

variable {later earlier : List (Nat × Happening)} {a n : Nat} {r : Response}

-- Something in a joined history is in one of its parts.
theorem append_split {x : Nat × Happening} (split : h ++ history = later ++ x :: earlier) :
    (∃ rest, h = later ++ x :: rest ∧ earlier = rest ++ history) ∨
      ∃ rest, later = h ++ rest ∧ history = rest ++ x :: earlier := by
  rcases List.append_eq_append_iff.mp split with ⟨rest, same, others⟩ | ⟨rest, same, others⟩
  · exact Or.inr ⟨rest, same, others⟩
  · cases rest with
    | nil => exact Or.inr ⟨[], by rw [same, List.append_nil, List.append_nil], others.symm⟩
    | cons y rest =>
      rcases List.cons.inj others with ⟨rfl, tail⟩
      exact Or.inl ⟨rest, same, tail⟩

-- What was answered is not in flight.
theorem answered_not_flying (known : Recorded q s history) {e : Event}
    (told : (a, Happening.told e) ∈ history) (answer : e.answer? = some (n, r)) :
    s.stage.ticket? ≠ some n := by
  intro flight
  have mem : (a, e) ∈ s.events := by
    rw [known.events]
    exact mem_said.mpr told
  refine known.ledger.not_inHand mem answer ?_
  unfold State.inHand
  rw [flight]
  exact List.mem_cons_self

-- The answers that a worker leaves behind when it goes away: all at once, all
-- alike, to what is in hand.
theorem of_leaving {i : Nat} {how : Ending} {u : State σ} {line hand : List Nat} {r' : Response}
    {rest l : List (Nat × Happening)} {e : Event}
    (quiet : said l = [])
    (split : (i, Happening.left how) ::
      State.toldAll (u.refusals line ++ u.replies r' hand) ++ l =
        later ++ (a, Happening.told e) :: rest)
    (answer : e.answer? = some (n, r)) :
    (i, Happening.left how) ∈ later ∧ a = u.now ∧ n ∈ hand ∧ r = r' := by
  have left : (i, Happening.left how) ∈ later := by
    cases later with
    | nil =>
      exact absurd (Prod.ext_iff.mp (List.cons.inj split).1).2
        (by simp only [reduceCtorEq, not_false_eq_true])
    | cons first others =>
      rw [(List.cons.inj split).1]
      exact List.mem_cons_self
  have told : (a, Happening.told e) ∈ (i, Happening.left how) ::
      State.toldAll (u.refusals line ++ u.replies r' hand) ++ l := by
    rw [split]
    exact List.mem_append_right later List.mem_cons_self
  have mem : (a, e) ∈ u.refusals line ++ u.replies r' hand := by
    have whole : said ((i, Happening.left how) ::
        State.toldAll (u.refusals line ++ u.replies r' hand)) =
          u.refusals line ++ u.replies r' hand := said_toldAll _
    rw [← whole, ← List.append_nil (said _), ← quiet, ← said_append]
    exact mem_said.mpr told
  refine ⟨left, ?_⟩
  rcases List.mem_append.mp mem with refusal | reply
  · rcases List.mem_map.mp (List.mem_reverse.mp refusal) with ⟨m, -, same⟩
    rw [← (Prod.mk.inj same).2] at answer
    exact absurd answer (by simp only [Event.answer?, reduceCtorEq, not_false_eq_true])
  · rcases List.mem_map.mp (List.mem_reverse.mp reply) with ⟨m, held, same⟩
    refine ⟨(Prod.mk.inj same).1.symm, ?_⟩
    rw [← (Prod.mk.inj same).2] at answer
    have pair : (m, r') = (n, r) :=
      Option.some.inj ((State.answer?_reply m r' _).symm.trans answer)
    rw [← (Prod.mk.inj pair).1, ← (Prod.mk.inj pair).2]
    exact ⟨held, rfl⟩

-- A worker that is lost leaves answers missing, and they are true.
theorem of_lost {how : Ending} {u : State σ} {line : List Nat}
    {l rest : List (Nat × Happening)} {e : Event} (known : Recorded q s history)
    (lost : how ≠ .finished) (quiet : said l = [])
    (unfailed : ∀ m b f, (b, Happening.returned m (.failure f)) ∉ l)
    (split : (u.now, Happening.left how) ::
      State.toldAll (u.refusals line ++ u.replies (.failed .missingResult) s.inHand) ++ l =
        later ++ (a, Happening.told e) :: rest)
    (answer : e.answer? = some (n, r)) : Truth q later (rest ++ history) a n r := by
  rcases of_leaving quiet split answer with ⟨left, instant, hand, rfl⟩
  rw [← instant] at left
  refine Truth.of_lost lost left ?_
  -- No failure was learned in this step, and none before it.
  intro b f mem
  have new : (b, Happening.returned n (.failure f)) ∉ (u.now, Happening.left how) ::
      State.toldAll (u.refusals line ++ u.replies (.failed .missingResult) s.inHand) ++ l := by
    intro mem
    rcases List.mem_append.mp mem with told | mem
    · exact not_mem_of_learned (n := n)
        (h := (u.now, Happening.left how) ::
          State.toldAll (u.refusals line ++ u.replies (.failed .missingResult) s.inHand))
        (learned_toldAll n _) rfl told
    · exact unfailed n b f mem
  rw [split] at new
  rcases List.mem_append.mp mem with mem | mem
  · exact new (List.mem_append_left _ mem)
  · rcases List.mem_append.mp mem with mem | mem
    · exact new (List.mem_append_right later (List.mem_cons_of_mem _ mem))
    · exact known.unfailed hand b f mem

-- The drain of a closed queue answers truly.
theorem of_drain {rest : List (Nat × Happening)} {e : Event} (known : Recorded q s history)
    (closed : s.shutdown = true)
    (split : (s.now, Happening.left .finished) ::
      State.toldAll (s.refusals s.inLine ++
        s.replies (.failed .queueClosed) (s.buffer.map Entry.ticket)) =
        later ++ (a, Happening.told e) :: rest)
    (answer : e.answer? = some (n, r)) : Truth q later (rest ++ history) a n r := by
  rcases of_leaving (l := []) rfl ((List.append_nil _).trans split) answer with
    ⟨left, instant, stored, rfl⟩
  refine Truth.of_closed ?_ ?_
  · rcases known.closed.mp closed with ⟨i, mem⟩
    exact ⟨i, List.mem_append_right rest mem⟩
  · have unsent : learned n history = [] := by
      rcases List.mem_map.mp stored with ⟨entry, mem, rfl⟩
      exact known.unsent entry.ticket (Recorded.not_sent_of_mem known.ledger mem)
    have new : learned n (later ++ (a, Happening.told e) :: rest) = [] := by
      rw [← split]
      exact learned_toldAll n _
    rw [learned_append] at new
    rcases List.append_eq_nil_iff.mp new with ⟨first, second⟩
    rw [learned_append, learned_append, first, unsent]
    exact (List.append_nil _).trans second

/-- The answer at the end of the work on a submission is true. -/
theorem of_over {m i : Nat} {d : Option Happening} {o : Surroundings σ} {r' : Response}
    {rest : List (Nat × Happening)} {e : Event} (known : Recorded q s history)
    (flight : Flight q s m i d o (.answered r'))
    (split : (max s.now i, Happening.told (s.reply m r')) ::
      d.toList.map (fun x => (max s.now i, x)) = later ++ (a, Happening.told e) :: rest)
    (answer : e.answer? = some (n, r)) : Truth q later (rest ++ history) a n r := by
  cases later with
  | nil =>
    rcases List.cons.inj split with ⟨same, deeds⟩
    rcases Prod.mk.inj same with ⟨instant, told⟩
    rw [← Happening.told.inj told] at answer
    have pair : (m, r') = (n, r) :=
      Option.some.inj ((State.answer?_reply m r' _).symm.trans answer)
    rw [← (Prod.mk.inj pair).1, ← (Prod.mk.inj pair).2, ← deeds, ← instant]
    exact Truth.of_over known flight
  | cons first others =>
    have mem : (a, e) ∈ said (d.toList.map fun x => (max s.now i, x)) := by
      refine mem_said.mpr ?_
      rw [(List.cons.inj split).2]
      exact List.mem_append_right others List.mem_cons_self
    rw [flight.said_deed] at mem
    exact absurd mem List.not_mem_nil

/-- Every step answers truly. -/
theorem kept (step : Step q s h t) (known : Recorded q s history) (truthful : Truthful q history) :
    Truthful q (h ++ history) := by
  intro later a e earlier split n r answer
  rcases append_split split with ⟨rest, new, rfl⟩ | ⟨rest, rfl, old⟩
  · -- The answer is new.
    have mem : (a, e) ∈ said h := by
      refine mem_said.mpr ?_
      rw [new]
      exact List.mem_append_right later List.mem_cons_self
    have silent (nothing : ∀ x ∈ said h, x.2.answer? = none) :
        Truth q later (rest ++ history) a n r := by
      exact absurd ((nothing _ mem).symm.trans answer)
        (by simp only [reduceCtorEq, not_false_eq_true])
    have refusing (tickets : List Nat) (u : State σ) :
        ∀ x ∈ u.refusals tickets, x.2.answer? = none := by
      intro x refused
      rcases List.mem_map.mp (List.mem_reverse.mp refused) with ⟨m, -, rfl⟩
      rfl
    cases step with
    | start | lineUp | leaveLine | depart | dropHandle | finish | wait =>
      exact silent fun x mem => absurd mem List.not_mem_nil
    | turnAway | accept | store =>
      refine silent fun x mem => ?_
      rw [List.mem_singleton.mp mem]
      rfl
    | close held running =>
      refine silent ?_
      rw [said_append, said_toldAll]
      exact (List.append_nil (s.refusals s.inLine)).symm ▸ refusing s.inLine s
    | take stage opened buffer =>
      refine silent fun x mem => ?_
      rw [said_didAll] at mem
      exact absurd mem List.not_mem_nil
    | goesOn flight acts calm =>
      refine silent fun x mem => ?_
      rw [said_append, said_didAll, flight.said_deed] at mem
      exact absurd mem List.not_mem_nil
    | lose alive =>
      refine of_lost (u := s) (l := []) known ?_ rfl (fun _ _ _ => List.not_mem_nil)
        ((List.append_nil _).trans new) answer
      unfold State.loss
      cases s.stage <;> simp only [ne_eq, reduceCtorEq, not_false_eq_true]
    | isOver flight calm => exact of_over known flight new answer
    | crashes flight calm =>
      rename_i m i d o text
      refine of_lost (u := s.after i o) known ?_ (flight.said_deed _) ?_ new answer
      · simp only [ne_eq, reduceCtorEq, not_false_eq_true]
      · intro m b f mem
        exact flight.unfailed_crash m f _ b mem
    | drain stage closed => exact of_drain known closed new answer
  · -- The answer was given before.
    have told : (a, Happening.told e) ∈ history := by
      rw [old]
      exact List.mem_append_right rest List.mem_cons_self
    exact (truthful rest a e earlier old n r answer).kept
      (step.learned_of_ne (answered_not_flying known told answer))

end Truthful

/-- Every answer in every run is true: whoever asks, closes the queue, leaves or
    takes the worker down, and whenever, an answer agrees with what the history
    knows about its own submission. -/
theorem answers_truthful (q : Setup σ) (world : σ) (moves : List Move) :
    Truthful q ((Chronicle.fresh world).play q moves).history := by
  refine (Chronicle.step_induction q
    (P := fun c => Recorded q c.state c.history ∧ Truthful q c.history) ?_ moves _
    ⟨Recorded.fresh q world, ?_⟩).2
  · rintro c h t step ⟨known, truthful⟩
    exact ⟨known.kept step, truthful.kept step known⟩
  · intro later a e earlier split
    exact absurd split.symm (List.append_ne_nil_of_right_ne_nil later (List.cons_ne_nil _ _))

end Queue

end TxRelay
