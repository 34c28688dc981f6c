import TxRelay.Clock

/-!
# Submissions

What comes of a submission. The caller who hands one in holds the pending
half of a one-shot channel; whoever works on it holds the responding half. The
responding half is used up by the answer, so a second answer cannot be
expressed, and giving it up unused is itself an answer: the result is missing.

## Main definitions

* `Submitted`: A transaction that was broadcast.
* `Response`: The outcome of a submission.
* `Delivery`: The channel between the two halves.

## Theorems

* `Delivery.seen_respond_respond`: Only the first answer counts.
-/

namespace TxRelay

/-- A transaction that was broadcast on a chain. -/
structure Submitted where
  /-- The chain. -/
  chain : ChainId
  /-- The hash under which the chain knows the transaction. -/
  hash : Hash
  deriving DecidableEq

/-- The outcome of a submission. -/
inductive Response where
  /-- Broadcast and no longer pending, or still in flight when the queue
      closed. -/
  | submitted (tx : Submitted)
  /-- Anything else. -/
  | failed (f : Failure)
  deriving DecidableEq

namespace Response

/-- Whether the transaction was submitted. -/
def isSubmitted : Response → Bool
  | .submitted _ => true
  | .failed _ => false

/-- The transaction or the failure. -/
def toExcept : Response → Except Failure Submitted
  | .submitted tx => .ok tx
  | .failed f => .error f

end Response

/-- The state of the one-shot channel between the two halves. -/
inductive Delivery where
  /-- Both halves are held and no answer was given. -/
  | waiting
  /-- An answer was given. -/
  | answered (r : Response)
  /-- The responding half was given up without an answer. -/
  | abandoned
  /-- The pending half was given up: nobody waits any more. -/
  | unheard
  deriving DecidableEq

namespace Delivery

/-- Gives the answer. Only a waiting channel takes one. -/
def respond (r : Response) : Delivery → Delivery
  | .waiting => .answered r
  | d => d

/-- Gives up the responding half. -/
def abandon : Delivery → Delivery
  | .waiting => .abandoned
  | d => d

/-- Gives up the pending half. -/
def leave (_ : Delivery) : Delivery :=
  .unheard

/-- What the pending half sees: nothing yet, or the outcome. -/
def seen? : Delivery → Option Response
  | .answered r => some r
  | .abandoned => some (.failed .missingResult)
  | _ => none

/-- Only the first answer counts. -/
theorem seen_respond_respond (d : Delivery) (r r' : Response) :
    ((d.respond r).respond r').seen? = (d.respond r).seen? := by
  cases d <;> rfl

end Delivery

end TxRelay
