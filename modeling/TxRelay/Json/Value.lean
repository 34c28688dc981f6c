/-!
# JSON Values

The values that requests, replies and answers are made of. Objects keep their
fields in the order in which they were written, and numbers are kept as they
were written as well.

## Main definitions

* `Json.Number`: A number as written.
* `Json.Value`: A value.
* `Json.Value.render`: Its text, in ASCII.
* `Json.Value.field?`: A field of an object.
-/

namespace TxRelay

namespace Json

/-- A number as it was written. -/
structure Number where
  /-- Whether a minus sign stands before it. -/
  negative : Bool
  /-- The digits before the point. -/
  whole : List Char
  /-- The digits behind the point, none if there is no point. -/
  fraction : List Char
  /-- The exponent with its letter and its sign, nothing if there is none. -/
  exponent : List Char
  deriving DecidableEq, Inhabited

/-- The value of a run of digits. -/
def digitsValue (digits : List Char) : Nat :=
  digits.foldl (fun acc c => acc * 10 + (c.toNat - 48)) 0

namespace Number

/-- A natural number. -/
def ofNat (n : Nat) : Number := ⟨false, Nat.toDigits 10 n, [], []⟩

/-- An integer. -/
def ofInt (n : Int) : Number := ⟨n < 0, Nat.toDigits 10 n.natAbs, [], []⟩

/-- The integer that was written plainly: without a point and an exponent, and
    not as the negative of zero. -/
def toInt? (n : Number) : Option Int :=
  let size := digitsValue n.whole
  if !(n.fraction.isEmpty && n.exponent.isEmpty) then none
  else if n.negative then if size = 0 then none else some (-size)
  else some size

/-- The natural number that was written plainly, without a sign. -/
def toNat? (n : Number) : Option Nat :=
  if n.negative then none else n.toInt?.map Int.toNat

/-- The power of ten that the exponent names. -/
def power (n : Number) : Int :=
  match n.exponent.drop 1 with
  | '-' :: digits => -digitsValue digits
  | '+' :: digits => digitsValue digits
  | digits => digitsValue digits

/-- The text of a number. -/
def render (n : Number) : String :=
  let sign := if n.negative then ['-'] else []
  let point := if n.fraction.isEmpty then [] else ['.']
  String.ofList (sign ++ n.whole ++ point ++ n.fraction ++ n.exponent)

end Number

/-- A value. -/
inductive Value where
  /-- The absent value. -/
  | null
  /-- A truth value. -/
  | bool (b : Bool)
  /-- A number. -/
  | num (n : Number)
  /-- A text. -/
  | str (s : String)
  /-- A list. -/
  | arr (items : List Value)
  /-- An object, with its fields as written. -/
  | obj (fields : List (String × Value))
  deriving Inhabited

namespace Value

/-- A natural number. -/
def nat (n : Nat) : Value := .num (.ofNat n)

/-- An integer. -/
def int (n : Int) : Value := .num (.ofInt n)

/-- A field of an object; of several with one name the last. -/
def field? (name : String) : Value → Option Value
  | .obj fields => (fields.reverse.find? fun f => f.1 == name).map (·.2)
  | _ => none

/-- Four hexadecimal digits. -/
def hex4 (n : Nat) : List Char :=
  let d (k : Nat) : Char :=
    let v := n / Nat.pow 16 k % 16
    if v < 10 then Char.ofNat (48 + v) else Char.ofNat (87 + v)
  [d 3, d 2, d 1, d 0]

/-- A character inside quotes. Characters outside ASCII are written by their
    code, those beyond sixteen bits by two. -/
def escapeChar (c : Char) : List Char :=
  if c = '"' then ['\\', '"']
  else if c = '\\' then ['\\', '\\']
  else if c = '\n' then ['\\', 'n']
  else if 32 ≤ c.toNat && c.toNat < 127 then [c]
  else if c.toNat < 65536 then '\\' :: 'u' :: hex4 c.toNat
  else
    let n := c.toNat - 65536
    '\\' :: 'u' :: hex4 (55296 + n / 1024) ++ '\\' :: 'u' :: hex4 (56320 + n % 1024)

/-- A text in quotes. -/
def quote (s : String) : String :=
  String.ofList ('"' :: s.toList.flatMap escapeChar ++ ['"'])

mutual

/-- The text of a value. -/
def render : Value → String
  | .null => "null"
  | .bool true => "true"
  | .bool false => "false"
  | .num n => n.render
  | .str s => quote s
  | .arr items => "[" ++ String.intercalate "," (renderItems items) ++ "]"
  | .obj fields => "\x7b" ++ String.intercalate "," (renderFields fields) ++ "\x7d"

/-- The texts of the items of a list. -/
def renderItems : List Value → List String
  | [] => []
  | v :: rest => render v :: renderItems rest

/-- The texts of the fields of an object. -/
def renderFields : List (String × Value) → List String
  | [] => []
  | (name, v) :: rest => (quote name ++ ":" ++ render v) :: renderFields rest

end

end Value

end Json

end TxRelay
