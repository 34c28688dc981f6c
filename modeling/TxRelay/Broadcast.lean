import TxRelay.Keccak
import TxRelay.Submission
import TxRelay.Surroundings

/-!
# Broadcasting

A signed transaction is handed to a chain, and again after a pause if that
failed in a way that may pass. Each attempt is limited in time; an answer at
the very limit still counts.

A node's rejection is free text, and it is read by phrases, in any case of
ASCII letters: a node that already has the transaction makes the broadcast a
success under the transaction's own hash, a used nonce and an empty account
end it with a failure of their own, and anything else is tried again.

## Main definitions

* `Rejection.ofMessage`: What a node's rejection means.
* `Broadcast.judge`: What the answer to an attempt decides.
* `Broadcast.Policy`: How often, how far apart and how long to try.
* `Broadcast.Run`: A broadcast under way.
* `Broadcast.Solo`: A broadcast with its surroundings, run on the clock.

## Theorems

* `Broadcast.Run.backlog_fire`: Every step leaves less to do.
-/

namespace TxRelay

/-- What a node's rejection of a transaction means. -/
inductive Rejection where
  /-- The node already has the transaction. -/
  | alreadyKnown
  /-- The nonce was used before. -/
  | nonceTooLow
  /-- The account cannot pay. -/
  | insufficientFunds
  /-- Anything else. -/
  | other
  deriving DecidableEq

namespace Rejection

/-- Whether a phrase occurs anywhere in a text. -/
def occurs (phrase : List Char) : List Char → Bool
  | [] => phrase.isEmpty
  | c :: rest => phrase.isPrefixOf (c :: rest) || occurs phrase rest

/-- A text with its ASCII letters in lower case. -/
def lower (message : String) : List Char :=
  message.toList.map Char.toLower

/-- Reads a rejection by the phrases in it; of several the first listed here
    decides. -/
def ofMessage (message : String) : Rejection :=
  let text := lower message
  if occurs "already known".toList text || occurs "known transaction".toList text then
    .alreadyKnown
  else if occurs "nonce too low".toList text then .nonceTooLow
  else if occurs "insufficient funds".toList text then .insufficientFunds
  else .other

end Rejection

namespace Broadcast

/-- How often, how far apart and how long to try. -/
structure Policy where
  /-- How many attempts to make; none counts as one. -/
  attempts : Nat
  /-- The pause between two attempts. -/
  pause : Nat
  /-- How long to wait for an answer. -/
  patience : Nat
  deriving DecidableEq

/-- What the answer to an attempt decides. -/
inductive Decision where
  /-- The transaction is with the chain. -/
  | accept (hash : Hash)
  /-- Further attempts are pointless. -/
  | refuse (f : Failure)
  /-- Another attempt may succeed. -/
  | again (f : Failure)
  deriving DecidableEq

/-- What an answer decides. -/
def judge (chain : ChainId) (raw : Bytes) : Except Failure Hash → Decision
  | .ok hash => .accept hash
  | .error (.transaction message) =>
    match Rejection.ofMessage message with
    -- An earlier attempt got through, and the hash follows from the bytes.
    | .alreadyKnown => .accept (keccak256 raw)
    | .nonceTooLow => .refuse (.nonce chain message)
    | .insufficientFunds => .refuse (.insufficientFunds chain)
    | .other => .again (.transaction message)
  | .error f => if f.retryable then .again f else .refuse f

/-- The failure of an attempt that was not answered in time. -/
def late : Failure := .timeout "send transaction"

/-- What a broadcast does between two of its steps. `left` counts the attempts
    behind the one that is made or comes next. -/
inductive Phase where
  /-- It waits for an answer, not longer than the deadline. -/
  | calling (answer : Answer Hash) (deadline : Nat) (left : Nat)
  /-- It waits to make the next attempt. -/
  | pausing (resume : Nat) (left : Nat)

/-- A broadcast under way. -/
structure Run where
  /-- The chain. -/
  chain : ChainId
  /-- The signed transaction. -/
  raw : Bytes
  /-- How to try. -/
  policy : Policy
  /-- What is being done. -/
  phase : Phase

namespace Run

variable {σ : Type}

/-- Makes an attempt now. -/
def call (send : Broadcaster σ) (now left : Nat) (r : Run) (s : Surroundings σ) :
    Run × Surroundings σ :=
  let a := s.call now (.attempt r.chain r.raw) (send r.chain r.raw)
  ({ r with phase := .calling a.1 (now + r.policy.patience) left }, a.2)

/-- Begins a broadcast with its first attempt. -/
def begin (send : Broadcaster σ) (policy : Policy) (now : Nat) (chain : ChainId) (raw : Bytes)
    (s : Surroundings σ) : Run × Surroundings σ :=
  call send now (policy.attempts - 1) ⟨chain, raw, policy, .pausing now 0⟩ s

/-- The instant of the next step. -/
def due (r : Run) : Nat :=
  match r.phase with
  | .calling (.arriving instant _) deadline _ => min instant deadline
  | .calling .never deadline _ => deadline
  | .pausing resume _ => resume

/-- Follows a decision at an instant. -/
def decide (instant left : Nat) (r : Run) : Decision → Outcome Submitted ⊕ Run
  | .accept hash => .inl (.value ⟨r.chain, hash⟩)
  | .refuse f => .inl (.failure f)
  | .again f =>
    match left with
    | 0 => .inl (.failure f)
    | rest + 1 => .inr { r with phase := .pausing (instant + r.policy.pause) rest }

/-- Takes the next step. -/
def fire (send : Broadcaster σ) (r : Run) (s : Surroundings σ) :
    (Outcome Submitted ⊕ Run) × Surroundings σ :=
  match r.phase with
  | .calling (.arriving instant answer) deadline left =>
    -- An answer at the deadline itself is still in time.
    if instant ≤ deadline then
      match answer with
      | .value hash => (r.decide instant left (judge r.chain r.raw (.ok hash)), s)
      | .failure f => (r.decide instant left (judge r.chain r.raw (.error f)), s)
      | .crash text => (.inl (.crash text), s)
    else (r.decide deadline left (.again late), s)
  | .calling .never deadline left => (r.decide deadline left (.again late), s)
  | .pausing resume left =>
    let a := call send resume left r s
    (.inr a.1, a.2)

/-- What is left to do: two steps for each further attempt. -/
def backlog (r : Run) : Nat :=
  match r.phase with
  | .calling _ _ left => 2 * left + 1
  | .pausing _ left => 2 * left + 2

/-- A decision to go on uses up an attempt. -/
theorem backlog_decide {instant left : Nat} {r v : Run} {d : Decision}
    (h : r.decide instant left d = .inr v) : v.backlog < 2 * left + 1 := by
  rcases d with hash | f | f
  · exact absurd h (by simp only [decide, reduceCtorEq, not_false_eq_true])
  · exact absurd h (by simp only [decide, reduceCtorEq, not_false_eq_true])
  · cases left with
    | zero => exact absurd h (by simp only [decide, reduceCtorEq, not_false_eq_true])
    | succ rest =>
      simp only [decide] at h
      rw [← Sum.inr.inj h]
      simp only [backlog]
      omega

/-- Every step leaves less to do. -/
theorem backlog_fire (send : Broadcaster σ) {r v : Run} {s : Surroundings σ}
    (h : (r.fire send s).1 = .inr v) : v.backlog < r.backlog := by
  unfold fire at h
  split at h
  · rename_i hphase
    split at h
    · split at h
      · dsimp only at h
        simp only [backlog, hphase]
        exact backlog_decide h
      · dsimp only at h
        simp only [backlog, hphase]
        exact backlog_decide h
      · exact absurd h (by simp only [reduceCtorEq, not_false_eq_true])
    · dsimp only at h
      simp only [backlog, hphase]
      exact backlog_decide h
  · rename_i hphase
    dsimp only at h
    simp only [backlog, hphase]
    exact backlog_decide h
  · rename_i hphase
    rw [← Sum.inr.inj h]
    simp only [backlog, call, hphase]
    omega

end Run

/-- A broadcast on its own, with its surroundings. -/
structure Solo (σ : Type) where
  /-- The clock. -/
  now : Nat
  /-- The broadcast, or how it ended. -/
  state : Outcome Submitted ⊕ Run
  /-- Chains, metrics and record. -/
  outside : Surroundings σ

namespace Solo

variable {σ : Type}

/-- Begins a broadcast. -/
def begin (send : Broadcaster σ) (policy : Policy) (now : Nat) (chain : ChainId) (raw : Bytes)
    (s : Surroundings σ) : Solo σ :=
  let r := Run.begin send policy now chain raw s
  ⟨now, .inr r.1, r.2⟩

/-- The next thing that happens up to an instant. -/
def step? (send : Broadcaster σ) (limit : Nat) (b : Solo σ) : Option (Solo σ) :=
  match b.state with
  | .inl _ => none
  | .inr r =>
    if r.due ≤ limit then
      let f := r.fire send b.outside
      some ⟨max b.now r.due, f.1, f.2⟩
    else none

/-- What is left to do. -/
def backlog (b : Solo σ) : Nat :=
  match b.state with
  | .inl _ => 0
  | .inr r => r.backlog

/-- Every step leaves less to do. -/
theorem step?_falls (send : Broadcaster σ) (limit : Nat) (b c : Solo σ)
    (h : step? send limit b = some c) : c.backlog < b.backlog := by
  unfold step? at h
  split at h
  · exact absurd h (by simp only [reduceCtorEq, not_false_eq_true])
  · rename_i r hr
    split at h
    · rw [← Option.some.inj h]
      simp only [backlog, hr]
      rcases hfire : (r.fire send b.outside).1 with outcome | next
      · simp only [Run.backlog]
        split <;> omega
      · exact Run.backlog_fire send hfire
    · exact absurd h (by simp only [reduceCtorEq, not_false_eq_true])

/-- Runs until the broadcast is over or an instant is reached. -/
def runTo (send : Broadcaster σ) (limit : Nat) (b : Solo σ) : Solo σ :=
  iterate (step? send limit) backlog (step?_falls send limit) b

end Solo

end Broadcast

end TxRelay
