import TxRelay.Json.Value
import TxRelay.Text.Quoted

/-!
# Described JSON Values

A form of JSON values for people, in which every value stands behind the name
of its kind. Numbers are shown as they were written.

## Main definitions

* `Json.Value.describe`: The described form of a value.
* `Json.describeOption`: That of a value which may be absent.
-/

namespace TxRelay

namespace Json

namespace Value

/-- Puts an entry in its place by name, instead of one with the same name. -/
def place (f : String × String) : List (String × String) → List (String × String)
  | [] => [f]
  | g :: rest =>
    if f.1 = g.1 then f :: rest
    else if f.1 < g.1 then f :: g :: rest
    else g :: place f rest

/-- Entries ordered by name, the last of several with one name. -/
def sortByName (entries : List (String × String)) : List (String × String) :=
  entries.foldl (fun done f => place f done) []

mutual

/-- The described form of a value. -/
def describe : Value → String
  | .null => "Null"
  | .bool b => "Bool(" ++ (if b then "true" else "false") ++ ")"
  | .num n => "Number(" ++ n.render ++ ")"
  | .str s => "String(" ++ Text.quote s ++ ")"
  | .arr items => "Array [" ++ String.intercalate ", " (describeItems items) ++ "]"
  | .obj fields =>
    let texts := (sortByName (describeFields fields)).map fun f =>
      Text.quote f.1 ++ ": " ++ f.2
    "Object \x7b" ++ String.intercalate ", " texts ++ "\x7d"

/-- The described forms of items. -/
def describeItems : List Value → List String
  | [] => []
  | v :: rest => describe v :: describeItems rest

/-- The names of fields with the described forms of their values. -/
def describeFields : List (String × Value) → List (String × String)
  | [] => []
  | (name, v) :: rest => (name, describe v) :: describeFields rest

end

end Value

/-- The described form of a value that may be absent. The value null counts as
    absent. -/
def describeOption : Option Value → String
  | none | some .null => "None"
  | some v => "Some(" ++ v.describe ++ ")"

end Json

end TxRelay
