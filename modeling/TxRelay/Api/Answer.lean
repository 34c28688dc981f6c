import TxRelay.Failure
import TxRelay.Json.Value

/-!
# Answers

An answer is a status and, mostly, a JSON body. A failure is answered with its
wording, with whether its outcome is unknown, and with a status of its own: the
caller is told apart whether its request makes no sense, whether the chain
refused it, whether nobody knows what became of it, or whether something on the
way failed.

## Main definitions

* `Api.Answer`: An answer.
* `Api.statusOf`: The status of a failure.
* `Api.Answer.ofFailure`: The answer to a failure.
-/

namespace TxRelay

namespace Api

/-- An answer. -/
structure Answer where
  /-- The status. -/
  status : Nat
  /-- The body. -/
  body : Option Json.Value

/-- The status of a failure. -/
def statusOf : Failure → Nat
  | .transactionMissing .. => 202
  | .queueClosed => 503
  | .nonce .. => 409
  | .invalidRequest .. => 400
  | .chainNotFound .. => 404
  | .missingResult | .internal .. | .config .. => 500
  | _ => 502

namespace Answer

/-- An answer without a body. -/
def bare (status : Nat) : Answer := ⟨status, none⟩

/-- A body that is sent with a status. -/
def json (status : Nat) (fields : List (String × Json.Value)) : Answer :=
  ⟨status, some (.obj fields)⟩

/-- The answer to a failure. -/
def ofFailure (f : Failure) : Answer :=
  json (statusOf f) [("error", .str f.message), ("unknown_outcome", .bool f.outcomeUnknown)]

/-- The answer without its body, as HEAD gives it. -/
def headOnly (a : Answer) : Answer := { a with body := none }

end Answer

end Api

end TxRelay
