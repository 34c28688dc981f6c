import TxRelay.Bytes
import TxRelay.Json.Magnitude
import TxRelay.Json.Token

/-!
# Request Bodies

The bodies of requests have two fields: the number of a chain, and a text. They
are read from the front, and the first thing that is wrong decides what is
reported: that the text is not JSON, or that it is not the JSON wanted. Whatever
follows the body's value is not looked at, except that a body beyond a certain
length is not read at all.

A body may be an object, whose other fields are ignored, or a list of just the
two values.

## Main definitions

* `Api.Body`: A body.
* `Api.BodyFault`: What is wrong with one.
* `Api.Body.limit`: How long it can be.
* `Api.Body.read`: Reads a body.
-/

namespace TxRelay

namespace Api

open Json (Token)

/-- A body: the number of a chain, and a text. -/
structure Body where
  /-- The chain. -/
  chain : ChainId
  /-- The text. -/
  text : String
  deriving DecidableEq

/-- What is wrong with a body. -/
inductive BodyFault where
  /-- It is too long. -/
  | oversized
  /-- It is not JSON. -/
  | malformed
  /-- It is not the JSON wanted. -/
  | mistyped
  deriving DecidableEq

namespace Body

/-- What is wrong when a value of a certain kind is wanted and this comes
    instead. -/
def mismatch : List Token → BodyFault
  | .num _ :: _ | .null :: _ | .bool _ :: _ | .str (some _) :: _ => .mistyped
  | .openArray :: _ | .openObject :: _ => .mistyped
  | _ => .malformed

/-- Reads the number of a chain. A number beyond all doubles is not even
    read. -/
def chainId (tokens : List Token) : Except BodyFault (ChainId × List Token) :=
  match tokens with
  | .num n :: rest =>
    match n.toNat? with
    | some v =>
      if v < UInt64.size then .ok (v.toUInt64, rest)
      else .error (if n.isOutOfRange then .malformed else .mistyped)
    | none => .error (if n.isOutOfRange then .malformed else .mistyped)
  | _ => .error (mismatch tokens)

/-- Reads a text. -/
def string (tokens : List Token) : Except BodyFault (String × List Token) :=
  match tokens with
  | .str (some s) :: rest => .ok (s, rest)
  | _ => .error (mismatch tokens)

/-- What may come next inside a value that is skipped. -/
inductive Awaited where
  /-- A value. -/
  | value
  /-- A value, or the end of the list. -/
  | valueOrEnd
  /-- A name. -/
  | name
  /-- A name, or the end of the object. -/
  | nameOrEnd
  /-- A colon. -/
  | colon
  /-- What may stand behind a value. -/
  | afterValue
  deriving DecidableEq

/-- Skips a value. The stack tells of every list (`false`) and object (`true`)
    around what comes next. -/
def skipFrom : Awaited → List Bool → List Token → Except BodyFault (List Token)
  -- The value is complete, whatever follows.
  | .afterValue, [], tokens => .ok tokens
  | _, _, [] => .error .malformed
  | awaited, stack, t :: rest =>
    match awaited, t with
    | .value, .openArray | .valueOrEnd, .openArray => skipFrom .valueOrEnd (false :: stack) rest
    | .value, .openObject | .valueOrEnd, .openObject => skipFrom .nameOrEnd (true :: stack) rest
    | .value, .null | .value, .bool _ | .value, .num _ | .value, .str _
    | .valueOrEnd, .null | .valueOrEnd, .bool _ | .valueOrEnd, .num _ | .valueOrEnd, .str _ =>
      skipFrom .afterValue stack rest
    | .valueOrEnd, .closeArray => skipFrom .afterValue (stack.drop 1) rest
    | .name, .str _ | .nameOrEnd, .str _ => skipFrom .colon stack rest
    | .nameOrEnd, .closeObject => skipFrom .afterValue (stack.drop 1) rest
    | .colon, .colon => skipFrom .value stack rest
    | .afterValue, .comma =>
      match stack with
      | true :: _ => skipFrom .name stack rest
      | _ => skipFrom .value stack rest
    | .afterValue, .closeObject =>
      match stack with
      | true :: outer => skipFrom .afterValue outer rest
      | _ => .error .malformed
    | .afterValue, .closeArray =>
      match stack with
      | false :: outer => skipFrom .afterValue outer rest
      | _ => .error .malformed
    | _, _ => .error .malformed

/-- Skips a value. -/
def skip (tokens : List Token) : Except BodyFault (List Token) :=
  skipFrom .value [] tokens

/-- The fields found so far. -/
structure Found where
  /-- The chain. -/
  chain : Option ChainId
  /-- The text. -/
  text : Option String

/-- The body, once both fields are found. -/
def Found.body : Found → Except BodyFault Body
  | ⟨some chain, some text⟩ => .ok ⟨chain, text⟩
  | _ => .error .mistyped

/-- Reads a colon. -/
def colon : List Token → Except BodyFault (List Token)
  | .colon :: rest => .ok rest
  | _ => .error .malformed

/-- Reads a field behind its name. A field that was found before is wrong at
    once. -/
def readField (textName name : String) (tokens : List Token) (f : Found) :
    Except BodyFault (Found × List Token) :=
  if name = "chain_id" then
    if f.chain.isSome then .error .mistyped
    else do
      let v ← chainId (← colon tokens)
      pure ({ f with chain := some v.1 }, v.2)
  else if name = textName then
    if f.text.isSome then .error .mistyped
    else do
      let v ← string (← colon tokens)
      pure ({ f with text := some v.1 }, v.2)
  else do
    let rest ← skip (← colon tokens)
    pure (f, rest)

/-- Reads fields up to the end of the object. Every field takes tokens, so as
    many rounds as tokens are enough. -/
def fieldsWithin (textName : String) : Nat → List Token → Found → Except BodyFault Body
  | 0, _, _ => .error .malformed
  | n + 1, tokens, f =>
    match tokens with
    | .str (some name) :: rest => do
      let r ← readField textName name rest f
      match r.2 with
      | .closeObject :: _ => r.1.body
      | .comma :: more => fieldsWithin textName n more r.1
      | _ => .error .malformed
    | _ => .error .malformed

/-- Reads a body; `textName` is the name of its text. -/
def ofTokens (textName : String) (tokens : List Token) : Except BodyFault Body :=
  match tokens with
  | .openObject :: .closeObject :: _ => .error .mistyped
  | .openObject :: rest => fieldsWithin textName tokens.length rest ⟨none, none⟩
  | .openArray :: .closeArray :: _ => .error .mistyped
  | .openArray :: rest => do
    let chain ← chainId rest
    match chain.2 with
    | .closeArray :: _ => .error .mistyped
    | .comma :: .closeArray :: _ => .error .malformed
    | .comma :: more => do
      let text ← string more
      match text.2 with
      | .closeArray :: _ => .ok ⟨chain.1, text.1⟩
      | _ => .error .malformed
    | _ => .error .malformed
  | _ => .error (mismatch tokens)

/-- The most bytes that a body can have. -/
def limit : Nat := 2 * 1024 * 1024

/-- Reads the body of a request. -/
def read (textName source : String) : Except BodyFault Body :=
  if source.utf8ByteSize ≤ limit then ofTokens textName (Json.tokens source)
  else .error .oversized

end Body

end Api

end TxRelay
