import TxRelay.Json.Token

/-!
# JSON Documents

The second stage of reading JSON text: tokens become a value. The text has to
be one value and nothing else, and values may be nested to a limited depth.

## Main definitions

* `Json.Value.parse?`: Reads a text.
-/

namespace TxRelay

namespace Json

/-- How deep values may be nested. -/
def maxDepth : Nat := 127

mutual

/-- Reads a value. The number bounds the tokens that may be read. -/
def valueWithin : Nat → Nat → List Token → Option (Value × List Token)
  | 0, _, _ => none
  | n + 1, depth, tokens =>
    match tokens with
    | .null :: rest => some (.null, rest)
    | .bool b :: rest => some (.bool b, rest)
    | .num x :: rest => some (.num x, rest)
    | .str (some s) :: rest => some (.str s, rest)
    | .openArray :: .closeArray :: rest =>
      if depth = 0 then none else some (.arr [], rest)
    | .openArray :: rest =>
      if depth = 0 then none
      else (itemsWithin n (depth - 1) rest).map fun r => (.arr r.1, r.2)
    | .openObject :: .closeObject :: rest =>
      if depth = 0 then none else some (.obj [], rest)
    | .openObject :: rest =>
      if depth = 0 then none
      else (fieldsWithin n (depth - 1) rest).map fun r => (.obj r.1, r.2)
    | _ => none

/-- Reads the items of a list up to its closing bracket. -/
def itemsWithin : Nat → Nat → List Token → Option (List Value × List Token)
  | 0, _, _ => none
  | n + 1, depth, tokens =>
    match valueWithin n depth tokens with
    | some (v, .comma :: rest) => (itemsWithin n depth rest).map fun r => (v :: r.1, r.2)
    | some (v, .closeArray :: rest) => some ([v], rest)
    | _ => none

/-- Reads the fields of an object up to its closing brace. -/
def fieldsWithin : Nat → Nat → List Token → Option (List (String × Value) × List Token)
  | 0, _, _ => none
  | n + 1, depth, tokens =>
    match tokens with
    | .str (some name) :: .colon :: rest =>
      match valueWithin n depth rest with
      | some (v, .comma :: more) =>
        (fieldsWithin n depth more).map fun r => ((name, v) :: r.1, r.2)
      | some (v, .closeObject :: more) => some ([(name, v)], more)
      | _ => none
    | _ => none

end

/-- Reads a text that is one value. -/
def Value.parse? (text : String) : Option Value :=
  let all := tokens text
  match valueWithin (2 * all.length + 1) maxDepth all with
  | some (v, []) => some v
  | _ => none

end Json

end TxRelay
