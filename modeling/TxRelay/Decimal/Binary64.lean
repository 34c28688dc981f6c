/-!
# Double-Precision Numbers

Latencies are summed in double precision, and the sum that is shown depends
on its rounding. A double that is finite and not negative is an integer
multiple of the smallest positive one, `2 ^ (-1074)`, so it is kept as that
integer. Comparison is then comparison of natural numbers, a sum is the exact
sum rounded once, and everything can be computed and reasoned about without
machine floats.

Sums and products are not bounded. What reaches the bound is not finite, and
`isFinite` tells; no count of milliseconds comes near it.

## Main definitions

* `roundFraction`: A fraction rounded to 53 significant bits, ties to even.
* `Binary64`: A finite double that is not negative.
* `Binary64.ofFraction`, `Binary64.add`, `Binary64.mul`: The nearest double.
* `Binary64.isFinite`: Whether a value is within the bound.
* `Binary64.ofMillis`: A span of time in seconds.

## Theorems

* `roundFraction_one_of_lt`: Whole numbers below `2 ^ 53` need no rounding.
-/

namespace TxRelay

/-- The fraction `num / den` rounded to an integer with at most 53 significant
    bits; a tie goes to the even neighbour. -/
def roundFraction (num den : Nat) : Nat :=
  let k := (num / den).log2 - 52
  let d := den <<< k
  let q := num / d
  let r := num % d
  (if d < 2 * r || (2 * r == d && q % 2 == 1) then q + 1 else q) <<< k

/-- Whole numbers below `2 ^ 53` need no rounding. -/
theorem roundFraction_one_of_lt {n : Nat} (h : n < Nat.pow 2 53) : roundFraction n 1 = n := by
  have hlog : n.log2 - 52 = 0 := by
    rcases Nat.eq_zero_or_pos n with rfl | hn
    · rfl
    · have := (Nat.log2_lt (Nat.ne_of_gt hn)).mpr h
      omega
  simp only [roundFraction, Nat.div_one, hlog, Nat.shiftLeft_zero, Nat.mod_one]
  rfl

/-- A double that is not negative. -/
structure Binary64 where
  /-- The value, in units of `2 ^ (-1074)`. -/
  units : Nat
  deriving DecidableEq

namespace Binary64

/-- The units in one. -/
def one : Nat := 1 <<< 1074

/-- Zero. -/
def zero : Binary64 := ⟨0⟩

/-- The double nearest to `num / den`. -/
def ofFraction (num den : Nat) : Binary64 :=
  ⟨roundFraction (num * one) den⟩

/-- The double nearest to a natural number. -/
def ofNat (n : Nat) : Binary64 :=
  ofFraction n 1

/-- The double nearest to the sum. -/
def add (x y : Binary64) : Binary64 :=
  ⟨roundFraction (x.units + y.units) 1⟩

/-- The double nearest to the quotient by a natural number. -/
def divNat (x : Binary64) (n : Nat) : Binary64 :=
  ⟨roundFraction x.units n⟩

/-- The double nearest to the product. -/
def mul (x y : Binary64) : Binary64 :=
  ofFraction (x.units * y.units) (one * one)

/-- Whether a value is below all that rounds to infinity. -/
def isFinite (x : Binary64) : Bool :=
  x.units < one <<< 1024

instance : LE Binary64 :=
  ⟨fun x y => x.units ≤ y.units⟩

instance (x y : Binary64) : Decidable (x ≤ y) :=
  inferInstanceAs (Decidable (x.units ≤ y.units))

/-- A span of time in seconds: the whole seconds and the rest are rounded each
    for itself, and then their sum. -/
def ofMillis (ms : Nat) : Binary64 :=
  add (ofNat (ms / 1000)) (ofFraction (ms % 1000) 1000)

end Binary64

end TxRelay
