/-!
# TOML Values

The values that settings are written in. Numbers with a fraction and dates
have no use in the settings; they are told apart from the other kinds, and
their value is dropped.

## Main definitions

* `Toml.Value`: A value.
* `Toml.Item`: What stands under a key while a document is read.
-/

namespace TxRelay

namespace Toml

/-- A value. -/
inductive Value where
  /-- A text. -/
  | str (s : String)
  /-- An integer. -/
  | int (n : Int)
  /-- A truth value. -/
  | bool (b : Bool)
  /-- A number with a fraction. -/
  | float
  /-- A date, a time, or both. -/
  | date
  /-- A list. -/
  | array (items : List Value)
  /-- A table. -/
  | table (entries : List (String × Value))
  deriving Inhabited

namespace Value

/-- An entry of a table. -/
def lookup? (key : String) : Value → Option Value
  | .table entries => (entries.find? fun e => e.1 == key).map (·.2)
  | _ => none

end Value

/-- How a table came about. A table that was only passed through by a longer
    key may still be defined by a header of its own; one that was begun by a
    dotted key may be extended by further dotted keys. -/
inductive Origin where
  /-- By a header of its own, or in braces. -/
  | defined
  /-- By a header that passed through it. -/
  | passed
  /-- By a dotted key. -/
  | dotted
  deriving DecidableEq

/-- What stands under a key while a document is read. -/
inductive Item where
  /-- A value. -/
  | value (v : Value)
  /-- A table. -/
  | table (origin : Origin) (entries : List (String × Item))
  /-- A list of tables, the last one first. -/
  | tables (last : List (String × Item)) (before : List (List (String × Item)))

/-- The entries of a table while a document is read. -/
abbrev Entries := List (String × Item)

namespace Item

mutual

/-- The value an item stands for in the end. -/
def toValue : Item → Value
  | .value v => v
  | .table _ entries => .table (toEntries entries)
  | .tables last before => .array (toTables before ++ [.table (toEntries last)])

/-- The values of entries. -/
def toEntries : List (String × Item) → List (String × Value)
  | [] => []
  | (key, item) :: rest => (key, toValue item) :: toEntries rest

/-- The values of tables, from the last to the first. -/
def toTables : List (List (String × Item)) → List Value
  | [] => []
  | entries :: rest => toTables rest ++ [.table (toEntries entries)]

end

end Item

end Toml

end TxRelay
