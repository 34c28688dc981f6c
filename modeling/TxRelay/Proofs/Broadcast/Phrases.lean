import TxRelay.Proofs.Broadcast.Attempts

/-!
# Phrases in Rejections

A node's rejection is read by the phrases in it, and a phrase counts wherever its
letters stand, ignoring the case of ASCII letters. `Rejection.Contains` says so
without the search: the letters are part of the message.

Two of the phrases turn a rejection into a success, because they say that the node
has the transaction. Their letters can also stand inside a longer word that says
the opposite. `Rejection.ContainsWord` asks in addition that a word begins with the
phrase, and `unknown_transaction_accepted` is a broadcast that succeeds although no
node has its transaction.

## Main definitions

* `Rejection.Contains`: A phrase is part of a message.
* `Rejection.ContainsWord`: A word of a message begins with a phrase.
* `Rejection.SaysKnown`: A message with a phrase that makes it a success.

## Theorems

* `Rejection.occurs_iff`: The search finds what is there.
* `Rejection.ofMessage_eq_alreadyKnown_iff`, `Rejection.ofMessage_eq_other`: How
  rejections are read.
* `Broadcast.success_by_rejection`: Which rejections turn into a success.
* `Broadcast.unknown_transaction_accepted`: One that should not.
-/

namespace TxRelay

namespace Rejection

/-- A phrase is part of a message, whatever the case of its ASCII letters. -/
def Contains (phrase message : String) : Prop :=
  phrase.toList <:+: lower message

/-- A phrase is part of a message, and no letter stands before it. -/
def ContainsWord (phrase message : String) : Prop :=
  ∃ before after, before ++ phrase.toList ++ after = lower message ∧
    ∀ c, before.getLast? = some c → c.isAlpha = false

/-- The message has a phrase that is read as the node having the transaction. -/
def SaysKnown (message : String) : Prop :=
  Contains "already known" message ∨ Contains "known transaction" message

/-- The search finds a phrase exactly if it is part of the text. -/
theorem occurs_iff (phrase text : List Char) : occurs phrase text = true ↔ phrase <:+: text := by
  induction text with
  | nil => rw [occurs, List.isEmpty_iff, List.infix_nil]
  | cons c rest ih =>
    rw [occurs, Bool.or_eq_true, List.isPrefixOf_iff_prefix, ih, List.infix_cons_iff]

instance (phrase message : String) : Decidable (Contains phrase message) :=
  decidable_of_iff _ (occurs_iff phrase.toList (lower message))

theorem ContainsWord.contains {phrase message : String} (h : ContainsWord phrase message) :
    Contains phrase message := by
  rcases h with ⟨before, after, parts, -⟩
  exact ⟨before, after, parts⟩

-- The two phrases come first, so no other one hides them.
theorem ofMessage_eq_alreadyKnown_iff {message : String} :
    ofMessage message = .alreadyKnown ↔ SaysKnown message := by
  unfold ofMessage SaysKnown Contains
  rw [← occurs_iff, ← occurs_iff, ← Bool.or_eq_true]
  constructor
  · intro known
    refine Decidable.byContradiction fun no => ?_
    dsimp only at known
    rw [if_neg no] at known
    split at known
    · exact absurd known (by simp)
    · split at known <;> exact absurd known (by simp)
  · intro meaning
    exact if_pos meaning

/-- A rejection without any of the phrases is not read. -/
theorem ofMessage_eq_other {message : String} (known : ¬SaysKnown message)
    (used : ¬Contains "nonce too low" message) (short : ¬Contains "insufficient funds" message) :
    ofMessage message = .other := by
  unfold SaysKnown Contains at known
  unfold Contains at used short
  rw [← occurs_iff, ← occurs_iff, ← Bool.or_eq_true] at known
  rw [← occurs_iff] at used short
  unfold ofMessage
  dsimp only
  rw [if_neg known, if_neg used, if_neg short]

end Rejection

namespace Broadcast

variable {σ : Type}

/-- Which rejections turn into a success. A broadcast ends as it would with any
    other reply (`EndsAt`), and a rejection in time makes it a success exactly if
    one of the two phrases is part of the message, at any place: then it ends with
    that attempt, under the hash that follows from the bytes. If no phrase is part
    of it, the attempt fails and another one is made, and the message is what the
    broadcast reports if there is none. Nothing else than a hash from a node and
    such a rejection is a success. -/
theorem success_by_rejection (send : Broadcaster σ) (policy : Policy) (now : Nat)
    (chain : ChainId) (raw : Bytes) (o : Surroundings σ) :
    let reply := Replies.reply (send chain raw) o.world
    let start := policy.start now reply
    ∃ k outcome,
      (∀ limit, start k + policy.span (reply k) ≤ limit →
        (Solo.begin send policy now chain raw o).runTo send limit =
          ⟨start k + policy.span (reply k), .inl outcome,
            o.called (send chain raw) (.attempt chain raw) start (k + 1)⟩) ∧
      (∀ i ≤ k, ∀ delay ≤ policy.patience, ∀ message,
        reply i = .after delay (.failure (.transaction message)) →
          (Rejection.SaysKnown message ↔ i = k ∧ outcome = .value ⟨chain, keccak256 raw⟩) ∧
          (¬Rejection.SaysKnown message → ¬Rejection.Contains "nonce too low" message →
            ¬Rejection.Contains "insufficient funds" message → i = k →
              k + 1 = max 1 policy.attempts ∧ outcome = .failure (.transaction message))) ∧
      ∀ tx, outcome = .value tx → tx.chain = chain ∧ ∃ delay ≤ policy.patience,
        reply k = .after delay (.value tx.hash) ∨
        ∃ message, reply k = .after delay (.failure (.transaction message)) ∧
          Rejection.SaysKnown message ∧ tx.hash = keccak256 raw := by
  intro reply start
  rcases Solo.finish_begin send policy now chain raw o with ⟨k, outcome, ends, finish⟩
  have clock : ((Solo.begin send policy now chain raw o).finish send).now =
      start k + policy.span (reply k) := congrArg Solo.now finish
  refine ⟨k, outcome, fun limit late => ?_, fun i le delay soon message said => ⟨?_, ?_⟩, ?_⟩
  · rw [Solo.finish_eq_runTo (clock ▸ late), finish]
    rfl
  · rw [← Rejection.ofMessage_eq_alreadyKnown_iff]
    constructor
    · intro meaning
      have settles : Settles policy chain raw (reply i) (.value ⟨chain, keccak256 raw⟩) :=
        said ▸ .known soon meaning
      -- Attempts before the last one fail, and this one does not.
      have last : i = k := by
        refine Nat.le_antisymm le (Nat.not_lt.mp fun less => ?_)
        rcases ends.before i less with ⟨f, fails⟩
        exact fails.not_settles settles
      subst last
      rcases ends.last with resettles | ⟨-, f, fails, -⟩
      · exact ⟨rfl, resettles.unique settles⟩
      · exact absurd settles fails.not_settles
    · rintro ⟨rfl, rfl⟩
      rcases ends.last with settles | ⟨-, f, -, failed⟩
      · rw [show Replies.reply (send chain raw) o.world i = _ from said] at settles
        cases settles with
        | known soon meaning => exact meaning
      · exact absurd failed (by simp)
  · rintro known used short rfl
    have fails : Fails policy (reply i) (.transaction message) :=
      said ▸ .rejected soon (Rejection.ofMessage_eq_other known used short)
    rcases ends.last with settles | ⟨last, f, refails, failed⟩
    · exact absurd settles fails.not_settles
    · exact ⟨last, by rw [failed, refails.unique fails]⟩
  · rintro tx rfl
    rcases ends.last with settles | ⟨-, f, -, failed⟩
    · generalize last : Replies.reply (send chain raw) o.world k = r at settles
      cases settles with
      | sent soon => exact ⟨rfl, _, soon, Or.inl last⟩
      | known soon meaning =>
        have phrase := Rejection.ofMessage_eq_alreadyKnown_iff.mp meaning
        exact ⟨rfl, _, soon, Or.inr ⟨_, last, phrase, rfl⟩⟩
    · exact absurd failed (by simp)

/-- A chain whose node does not know any transaction. -/
def unknowing : Broadcaster Unit := fun _ _ u =>
  (.after 0 (.failure (.transaction "unknown transaction")), u)

/-- A rejection can turn into a success although it says the opposite: the letters
    of a phrase stand inside the word that denies it. The broadcast is over with
    its first attempt, and no word of the message begins with a phrase. -/
theorem unknown_transaction_accepted :
    ((Solo.begin unknowing ⟨3, 500, 30000⟩ 0 1 [2, 248, 107] (.fresh ())).runTo unknowing 0).state =
        .inl (.value ⟨1, keccak256 [2, 248, 107]⟩) ∧
      ¬Rejection.ContainsWord "already known" "unknown transaction" ∧
      ¬Rejection.ContainsWord "known transaction" "unknown transaction" := by
  refine ⟨?_, fun word => absurd word.contains (by decide), ?_⟩
  · have settles : Settles ⟨3, 500, 30000⟩ 1 [2, 248, 107]
        (Replies.reply (unknowing 1 [2, 248, 107]) () 0) (.value ⟨1, keccak256 [2, 248, 107]⟩) :=
      .known (Nat.zero_le _) (by decide)
    have finish :
        (Solo.attempted unknowing ⟨3, 500, 30000⟩ 0 1 [2, 248, 107] (.fresh ()) 0 2).finish
          unknowing = _ := Solo.finish_of_settles settles
    rw [Solo.begin_eq_attempted, Solo.finish_eq_runTo (finish ▸ Nat.le_refl 0)]
    exact congrArg Solo.state finish
  · rintro ⟨before, after, parts, boundary⟩
    -- Its only place is behind two letters.
    rw [show Rejection.lower "unknown transaction" = 'u' :: 'n' :: "known transaction".toList
      by decide] at parts
    rcases before with _ | ⟨a, _ | ⟨b, _ | ⟨c, rest⟩⟩⟩
    · simp at parts
    · simp at parts
    · obtain rfl : b = 'n' := by simpa using (List.cons.inj (List.cons.inj parts).2).1
      exact absurd (boundary 'n' rfl) (by decide)
    · have length := congrArg List.length parts
      simp at length
      omega

end Broadcast

end TxRelay
