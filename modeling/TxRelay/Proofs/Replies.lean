import TxRelay.Surroundings

/-!
# Replies One After Another

A machine that calls one operation again and again gets one reply after another,
and which replies those are depends on the chains it began with and on nothing
else. So statements about such a machine are about a sequence of replies, counted
from zero. They lose nothing by it: whatever sequence there is, some chains give
it.

## Main definitions

* `Replies.reply`: The reply to a call.
* `Replies.inOrder`: Chains that give a sequence of replies.
* `Surroundings.called`: Surroundings after so many calls.

## Theorems

* `Replies.reply_inOrder`: Every sequence of replies is one that chains give.
* `Surroundings.call_called`: One more call.
-/

namespace TxRelay

namespace Replies

variable {σ α : Type}

/-- The chains after an operation was called so often. -/
def after (operation : σ → Reply α × σ) (world : σ) : Nat → σ
  | 0 => world
  | n + 1 => (operation (after operation world n)).2

/-- The reply to a call, after so many others. -/
def reply (operation : σ → Reply α × σ) (world : σ) (n : Nat) : Reply α :=
  (operation (after operation world n)).1

/-- Chains that give a sequence of replies. They keep nothing but how many they
    gave. -/
def inOrder (replies : Nat → Reply α) (given : Nat) : Reply α × Nat :=
  (replies given, given + 1)

theorem after_inOrder (replies : Nat → Reply α) (n : Nat) : after (inOrder replies) 0 n = n := by
  induction n with
  | zero => rfl
  | succ n ih =>
    rw [after, ih]
    rfl

/-- Every sequence of replies is one that chains give. -/
theorem reply_inOrder (replies : Nat → Reply α) : reply (inOrder replies) 0 = replies := by
  funext n
  rw [reply, after_inOrder]
  rfl

end Replies

namespace Surroundings

variable {σ α : Type}

/-- Surroundings after so many calls of an operation, each noted with its
    instant. -/
def called (operation : σ → Reply α × σ) (act : Act) (instant : Nat → Nat) (n : Nat)
    (s : Surroundings σ) : Surroundings σ :=
  { s with
    world := Replies.after operation s.world n
    acts := ((List.range n).map fun i => (instant i, act)).reverse ++ s.acts }

variable (operation : σ → Reply α × σ) (act : Act) (instant : Nat → Nat) (s : Surroundings σ)

/-- One more call gets the next reply. -/
theorem call_called (n : Nat) :
    (s.called operation act instant n).call (instant n) act operation =
      ((Replies.reply operation s.world n).calledAt (instant n),
        s.called operation act instant (n + 1)) := by
  unfold call called
  rw [List.range_succ, List.map_append, List.reverse_append]
  rfl

end Surroundings

end TxRelay
