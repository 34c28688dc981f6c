import TxRelay.Rpc.Basic

/-!
# Results of Remote Calls

Numbers in results are hexadecimal texts of limited size, hashes and accounts
are hexadecimal texts of exact size, and a transaction is an object of such
texts. A result of any other form is as good as none.

## Main definitions

* `Rpc.quantity?`: Reads a number.
* `Rpc.fixed?`: Reads a hash or an account.
* `Rpc.ChainTransaction`: What is wanted of a transaction.
* `Rpc.transaction?`: Reads a transaction, or that there is none.
-/

namespace TxRelay

namespace Rpc

/-- Reads digits in pairs, with `half` before them. Blanks between digits do
    not count, and neither does a digit that is left over. -/
def rawBytes? (half : Option UInt8) : Bytes → Option Bytes
  | [] => some []
  | c :: rest =>
    if Hex.isBlank c then rawBytes? half rest
    else
      match Hex.digit? c, half with
      | none, _ => none
      | some d, none => rawBytes? (some d) rest
      | some d, some h => (rawBytes? none rest).map ((h <<< 4 ||| d) :: ·)

/-- Reads a text of digits, whose number may be odd. -/
def hexBytes? (digits : Bytes) : Option Bytes :=
  rawBytes? (if digits.length % 2 = 1 then some 0 else none) digits

/-- The number whose bytes these are, the most significant one first. -/
def ofBytes (bytes : Bytes) : Nat :=
  bytes.foldl (fun acc b => acc * 256 + b.toNat) 0

/-- Reads a number of at most so many bytes. There has to be a digit. -/
def quantity? (size : Nat) : Json.Value → Option Nat
  | .str s =>
    let digits := Hex.strip0x s.toUTF8.toList
    if 0 < digits.length && digits.length ≤ 2 * size then (hexBytes? digits).map ofBytes else none
  | _ => none

/-- Reads a byte string of fixed length. -/
def fixed? (size : Nat) : Json.Value → Option (FixedBytes size)
  | .str s =>
    let digits := Hex.strip0x s.toUTF8.toList
    if digits.length = 2 * size then (hexBytes? digits).bind (FixedBytes.ofList? size) else none
  | _ => none

/-- Reads a byte string of any length. -/
def bytes? : Json.Value → Option Bytes
  | .str s =>
    match Hex.decode (Hex.strip0x s.toUTF8.toList) with
    | .ok b => some b
    | .error _ => none
  | _ => none

/-- Reads a field that has to be there. -/
def required {α : Type} (name : String) (read : Json.Value → Option α)
    (fields : List (String × Json.Value)) : Option α :=
  match field name fields with
  | .ok (some v) => read v
  | _ => none

/-- Reads a field that may be absent, or null. -/
def optional {α : Type} (name : String) (read : Json.Value → Option α)
    (fields : List (String × Json.Value)) : Option (Option α) :=
  match field name fields with
  | .ok none | .ok (some .null) => some none
  | .ok (some v) => (read v).map some
  | .error _ => none

/-- Reads an entry of an access list. -/
def accessEntry? : Json.Value → Option Unit
  | .obj fields => do
    let _ ← required "address" (fixed? 20) fields
    let keys ← required "storageKeys" (fun v => some v) fields
    match keys with
    | .arr items => do
      let _ ← items.mapM (fixed? 32)
      pure ()
    | _ => none
  | _ => none

/-- Reads an access list. -/
def accessList? : Json.Value → Option Unit
  | .arr items => do
    let _ ← items.mapM accessEntry?
    pure ()
  | _ => none

/-- What is wanted of a transaction. -/
structure ChainTransaction where
  /-- Its hash. -/
  hash : Hash
  /-- Its nonce. -/
  nonce : Nat
  /-- The account that made it. -/
  sender : Address
  /-- The block it is in, if it is in one. -/
  block : Option Nat
  deriving DecidableEq

namespace ChainTransaction

/-- A transaction that is in no block is pending. -/
def pending (t : ChainTransaction) : Bool := t.block.isNone

end ChainTransaction

/-- Reads the fields of a transaction. All of them have to be in order, also
    those that are not wanted. -/
def fields? (fields : List (String × Json.Value)) : Option ChainTransaction := do
  let hash ← required "hash" (fixed? 32) fields
  let nonce ← required "nonce" (quantity? 32) fields
  let _ ← optional "blockHash" (fixed? 32) fields
  let block ← optional "blockNumber" (quantity? 8) fields
  let _ ← optional "transactionIndex" (quantity? 8) fields
  let sender ← match field "from" fields with
    | .ok none => some default
    | .ok (some v) => fixed? 20 v
    | .error _ => none
  let _ ← optional "to" (fixed? 20) fields
  let _ ← required "value" (quantity? 32) fields
  let _ ← optional "gasPrice" (quantity? 32) fields
  let _ ← required "gas" (quantity? 32) fields
  let _ ← required "input" bytes? fields
  let _ ← required "v" (quantity? 8) fields
  let _ ← required "r" (quantity? 32) fields
  let _ ← required "s" (quantity? 32) fields
  let _ ← optional "type" (quantity? 8) fields
  let _ ← optional "accessList" accessList? fields
  let _ ← optional "maxPriorityFeePerGas" (quantity? 32) fields
  let _ ← optional "maxFeePerGas" (quantity? 32) fields
  let _ ← optional "chainId" (quantity? 32) fields
  pure ⟨hash, nonce, sender, block⟩

/-- Reads a transaction, or that there is none. -/
def transaction? : Json.Value → Option (Option ChainTransaction)
  | .null => some none
  | .obj fields => (fields? fields).map some
  | _ => none

end Rpc

end TxRelay
