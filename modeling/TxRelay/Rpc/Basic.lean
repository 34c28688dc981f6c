import TxRelay.Json.Described
import TxRelay.Json.Parser
import TxRelay.Bytes.Hex

/-!
# Remote Calls

What is sent to an endpoint, and what comes back. A reply is a result, or an
error that the node reports, or nothing that can be read; a call that never
reached a node counts as the last.

A node's error comes from a node that was reached and understood the call. It
is kept apart from everything else that can go wrong on the way, because it
would be the same at any other endpoint.

## Main definitions

* `Rpc.Request`: A call, and the four calls that are made.
* `Rpc.Refusal`: An error that a node reports.
* `Rpc.Reply`: What comes back.
* `Rpc.Reply.ofBody`: Reads what a node sent.
-/

namespace TxRelay

namespace Rpc

/-- A call. -/
structure Request where
  /-- The name of the procedure. -/
  method : String
  /-- Its arguments. -/
  params : List Json.Value

namespace Request

/-- Asks for the number of the latest block. -/
def blockNumber : Request := ⟨"eth_blockNumber", []⟩

/-- Asks how many transactions an account has made, pending ones included. -/
def pendingCount (account : Address) : Request :=
  ⟨"eth_getTransactionCount", [.str (Hex.encodePrefixed account.toList), .str "pending"]⟩

/-- Asks for a transaction. -/
def transaction (hash : Hash) : Request :=
  ⟨"eth_getTransactionByHash", [.str (Hex.encodePrefixed hash.toList)]⟩

/-- Hands over a signed transaction. -/
def sendRaw (raw : Bytes) : Request :=
  ⟨"eth_sendRawTransaction", [.str (Hex.encodePrefixed raw)]⟩

end Request

/-- An error that a node reports. -/
structure Refusal where
  /-- Its number. -/
  code : Int
  /-- What it says. -/
  message : String
  /-- What comes with it. -/
  data : Option Json.Value

namespace Refusal

/-- The wording of a node's error. -/
def text (r : Refusal) : String :=
  "(code: " ++ toString r.code ++ ", message: " ++ r.message ++ ", data: " ++
    Json.describeOption r.data ++ ")"

end Refusal

/-- What comes back. -/
inductive Reply where
  /-- A result. -/
  | result (v : Json.Value)
  /-- An error that the node reports. -/
  | refused (r : Refusal)
  /-- Nothing that can be read. -/
  | unreadable

/-- The only field of a name. Several of one name are as bad as a value of the
    wrong kind. -/
def field (name : String) (fields : List (String × Json.Value)) : Except Unit (Option Json.Value) :=
  match fields.filter fun f => f.1 == name with
  | [] => .ok none
  | [f] => .ok (some f.2)
  | _ => .error ()

namespace Refusal

/-- Reads a node's error. -/
def ofValue? : Json.Value → Option Refusal
  | .obj fields =>
    match field "code" fields, field "message" fields, field "data" fields with
    | .ok (some (.num n)), .ok (some (.str message)), .ok data =>
      match n.toInt? with
      | some code =>
        if -(Nat.pow 2 63 : Int) ≤ code && code < (Nat.pow 2 63 : Int) then
          some ⟨code, message, data⟩
        else none
      | none => none
    | _, _, _ => none
  | _ => none

end Refusal

namespace Reply

/-- Reads a reply. It names its version and its number, holds either a result
    or an error, and nothing else. -/
def ofValue : Json.Value → Reply
  | .obj fields =>
    let known := fields.all fun f => ["jsonrpc", "id", "result", "error"].contains f.1
    match field "jsonrpc" fields, field "id" fields, field "result" fields, field "error" fields with
    | .ok (some (.str version)), .ok (some (.num id)), .ok value, .ok fault =>
      if known && version == "2.0" && (id.toNat?.any (· < UInt64.size)) then
        match value, fault with
        | some v, none => .result v
        | none, some e =>
          match Refusal.ofValue? e with
          | some r => .refused r
          | none => .unreadable
        | _, _ => .unreadable
      else .unreadable
    | _, _, _, _ => .unreadable
  | _ => .unreadable

/-- Reads what a node sent. -/
def ofBody (text : String) : Reply :=
  match Json.Value.parse? text with
  | some v => ofValue v
  | none => .unreadable

end Reply

end Rpc

end TxRelay
