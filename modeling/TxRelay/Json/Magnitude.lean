import TxRelay.Decimal.Binary64
import TxRelay.Json.Value

/-!
# Magnitudes of JSON Numbers

A number that stands where a whole number of 64 bits is wanted is read even if
it is not one, and reading fails if it is beyond all doubles. The double is
computed in steps: the digits become a word of 64 bits as long as they fit, the
word becomes a double, and a power of ten scales it. Each step rounds, so right
at the bound a number may count as too large that a single rounding would keep.

## Main definitions

* `Json.Scaled`: A word and the power of ten that scales it.
* `Json.Number.scaled`: The digits of a number that fit into a word.
* `Json.Number.isOutOfRange`: Whether a number is beyond all doubles.
-/

namespace TxRelay

namespace Json

/-- A word and the power of ten that scales it. -/
structure Scaled where
  /-- The word. -/
  word : Nat
  /-- The power of ten. -/
  power : Int
  deriving DecidableEq

/-- Adds digits to a word as long as it stays one, and how many are left. -/
def addDigits (word : Nat) : List Char → Nat × Nat
  | [] => (word, 0)
  | digit :: rest =>
    let more := word * 10 + digitsValue [digit]
    if more < UInt64.size then addDigits more rest else (word, rest.length + 1)

namespace Number

/-- The digits of a number that fit into a word. Digits that are left before
    the point count as zeros, and those behind it count for nothing. -/
def scaled (n : Number) : Scaled :=
  let (whole, left) := addDigits 0 n.whole
  let (word, dropped) := addDigits whole n.fraction
  ⟨word, (left : Int) - ((n.fraction.length : Int) - dropped) + n.power⟩

/-- Whether a number is beyond all doubles. Powers that make a number smaller
    never lead there. -/
def isOutOfRange (n : Number) : Bool :=
  let s := n.scaled
  if s.word = 0 || s.power < 0 then false
  else if 308 < s.power then true
  else !((Binary64.ofNat s.word).mul (Binary64.ofNat (Nat.pow 10 s.power.toNat))).isFinite

end Number

end Json

end TxRelay
