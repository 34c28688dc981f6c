import TxRelay.Decimal.Binary64

/-!
# The Shortest Decimal

A double is written with the fewest decimal digits that read back as the same
double; of two such decimals the nearer one is taken, and of two equally near
ones the larger. The digits are always written positionally, without an
exponent and without a point that has nothing behind it.

The decimals that read back as a double fill an interval around it, which
reaches half way to each neighbour; its ends belong to it when the significand
is even. For one digit, two digits and so on, the two multiples of a power of
ten next to the value are tried, until one lies in the interval.

## Main definitions

* `Shortest.Interval`: The values that read back as a given double.
* `Shortest.digits`: The shortest decimal, as an integer and a power of ten.
* `Binary64.render`: Its text.
-/

namespace TxRelay

namespace Shortest

/-- The values that round to a double, in quarters of the smallest unit. -/
structure Interval where
  /-- The lower end. -/
  low : Nat
  /-- The upper end. -/
  high : Nat
  /-- Whether the ends belong to the interval. -/
  closed : Bool

/-- The values that read back as the double of this many units. The gap below
    a power of two is half as wide as the one above it. -/
def interval (units : Nat) : Interval :=
  let k := units.log2 - 52
  let gap := 1 <<< k
  let significand := units >>> k
  -- The smallest normal double has no narrower gap below it.
  let below := if 0 < k && significand == 1 <<< 52 then gap else 2 * gap
  { low := 4 * units - below
    high := 4 * units + 2 * gap
    closed := significand % 2 == 0 }

/-- A fraction, with a positive denominator, lies in an interval that is
    scaled by `one` units and four quarters. -/
def Interval.holds (i : Interval) (num den : Nat) : Bool :=
  let value := num * (4 * Binary64.one)
  if i.closed then decide (i.low * den ≤ value) && decide (value ≤ i.high * den)
  else decide (i.low * den < value) && decide (value < i.high * den)

/-- The number of digits before the decimal point, or minus the number of
    zeros directly behind it. -/
def magnitude (units : Nat) : Int :=
  if Binary64.one ≤ units then ((Nat.toDigits 10 (units / Binary64.one)).length : Int)
  else
    match (List.range 400).find? (fun j => decide (Binary64.one ≤ units * Nat.pow 10 (j + 1))) with
    | some j => -(j : Int)
    | none => -400

/-- The decimal with `n` digits that reads back as the double, if there is
    one. The nearer neighbour is taken, and of equally near ones the larger. -/
def candidate? (units n : Nat) : Option (Nat × Int) :=
  let e : Int := magnitude units - (n : Int)
  -- The value is `num / den` steps of the grid `10 ^ e`.
  let num := units * Nat.pow 10 (-e).toNat
  let den := Binary64.one * Nat.pow 10 e.toNat
  let down := num / den
  let i := interval units
  let holds (c : Nat) := i.holds (c * Nat.pow 10 e.toNat) (Nat.pow 10 (-e).toNat)
  match holds down, holds (down + 1) with
  | true, true => if 2 * (num % den) < den then some (down, e) else some (down + 1, e)
  | true, false => some (down, e)
  | false, true => some (down + 1, e)
  | false, false => none

/-- A decimal without a zero at its end. A single digit that was rounded up
    can leave one. -/
def trim (d : Nat × Int) : Nat × Int :=
  if d.1 = 10 then (1, d.2 + 1) else d

/-- The shortest decimal that reads back as the double, as an integer and the
    power of ten that it counts. Seventeen digits are always enough. -/
def digits (units : Nat) : Nat × Int :=
  match (List.range 17).findSome? (fun n => candidate? units (n + 1)) with
  | some d => trim d
  | none => (0, 0)

/-- An integer times a power of ten, written positionally. -/
def positional (c : Nat) (e : Int) : String :=
  let text := Nat.toDigits 10 c
  if 0 ≤ e then String.ofList (text ++ List.replicate e.toNat '0')
  else
    let places := (-e).toNat
    let padded := List.replicate (places + 1 - text.length) '0' ++ text
    let whole := padded.length - places
    String.ofList (padded.take whole ++ '.' :: padded.drop whole)

end Shortest

namespace Binary64

/-- The text of a double. -/
def render (x : Binary64) : String :=
  if x.units = 0 then "0"
  else
    let d := Shortest.digits x.units
    Shortest.positional d.1 d.2

end Binary64

end TxRelay
