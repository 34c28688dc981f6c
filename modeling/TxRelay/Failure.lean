import TxRelay.Bytes.Hex

/-!
# Failures

Everything that can go wrong with an allocation, a submission or a
confirmation, as the cause it has. The wording is one function of the cause,
and so are the three questions that callers ask of a failure: may the call be
tried again, may the transaction have landed after all, should somebody be
told.

## Main definitions

* `Failure`: The cause.
* `Failure.message`: Its wording.
* `Failure.retryable`, `Failure.outcomeUnknown`, `Failure.alerting`: What a
  caller should make of it.
-/

namespace TxRelay

/-- Why an allocation, a submission or a confirmation failed. -/
inductive Failure where
  /-- The settings cannot be used. -/
  | config (message : String)
  /-- The endpoints of a chain could not be reached or gave nonsense. -/
  | chainConnection (chain : ChainId) (message : String)
  /-- No such chain is connected. -/
  | chainNotFound (chain : ChainId)
  /-- The chain refused the nonce of a transaction. -/
  | nonce (chain : ChainId) (message : String)
  /-- The node rejected the transaction. -/
  | transaction (message : String)
  /-- The chain does not know the transaction. -/
  | transactionNotFound (hash : Hash) (chain : ChainId)
  /-- The queue no longer takes or processes submissions. -/
  | queueClosed
  /-- The worker went away without an answer. -/
  | missingResult
  /-- The transaction was sent but never seen leaving the pending pool. -/
  | transactionMissing (hash : Hash)
  /-- An operation took too long. -/
  | timeout (operation : String)
  /-- The account cannot pay for the transaction. -/
  | insufficientFunds (chain : ChainId)
  /-- The caller's request makes no sense. -/
  | invalidRequest (message : String)
  /-- A fault of the program itself. -/
  | internal (message : String)
  deriving DecidableEq

namespace Failure

/-- The wording of a failure. Hashes are written in full, in lower case. -/
def message : Failure → String
  | .config m => "Configuration error: " ++ m
  | .chainConnection chain m =>
    "Chain connection error for chain " ++ toString chain ++ ": " ++ m
  | .chainNotFound chain => "Chain " ++ toString chain ++ " not found"
  | .nonce chain m => "Nonce error for chain " ++ toString chain ++ ": " ++ m
  | .transaction m => "Transaction error: " ++ m
  | .transactionNotFound hash chain =>
    "Transaction " ++ Hex.encodePrefixed hash.toList ++ " not found on chain " ++ toString chain
  | .queueClosed => "Queue was closed"
  | .missingResult => "Transaction missing with no previous error, state unknown"
  | .transactionMissing hash =>
    "Transaction " ++ Hex.encodePrefixed hash.toList ++
      " failed in queue: transaction missing, state unknown"
  | .timeout operation => "Timeout waiting for " ++ operation
  | .insufficientFunds chain => "Insufficient funds on chain " ++ toString chain
  | .invalidRequest m => "Invalid request: " ++ m
  | .internal m => "Internal error: " ++ m

/-- The same call may succeed when it is made again. -/
def retryable : Failure → Bool
  | .chainConnection .. | .timeout .. | .transactionNotFound .. => true
  | _ => false

/-- The transaction may or may not have landed, so the caller has to look
    before acting. -/
def outcomeUnknown : Failure → Bool
  | .transactionMissing .. => true
  | _ => false

/-- Somebody should be told. -/
def alerting : Failure → Bool
  | .missingResult | .insufficientFunds .. => true
  | _ => false

end Failure

end TxRelay
