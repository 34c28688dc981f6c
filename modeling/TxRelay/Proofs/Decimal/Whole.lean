import TxRelay.Decimal.Shortest
import Mathlib.Algebra.Group.Nat.Defs

/-!
# Whole Numbers as Doubles

Counts are shown as doubles. A whole number up to `2 ^ 53` is a double, so rounding
leaves it alone, and its shortest decimal has its own digits: the doubles around it are
less than one away from it, and so no other whole number reads back as the same double.
Beyond that whole numbers are rounded, which keeps their order.

## Main definitions

* `roundTo`: A number rounded to a multiple of a power of two.

## Theorems

* `roundFraction_one_of_dvd`: What is a double already is not rounded.
* `roundFraction_one_mono`: Rounding keeps the order.
* `Binary64.ofNat_mono`: So does turning numbers into doubles.
* `Binary64.render_ofNat`: A small whole number is shown by its digits.
* `Binary64.mem_render`: What a double is shown by.
-/

namespace TxRelay

section Rounding

variable {a b k n : Nat}

/-- A number rounded to a multiple of `2 ^ k`; a tie goes to the even one. -/
def roundTo (k n : Nat) : Nat :=
  (if 2 ^ k < 2 * (n % 2 ^ k) ∨ 2 * (n % 2 ^ k) = 2 ^ k ∧ n / 2 ^ k % 2 = 1 then n / 2 ^ k + 1
    else n / 2 ^ k) * 2 ^ k

theorem roundFraction_one_eq (n : Nat) : roundFraction n 1 = roundTo (n.log2 - 52) n := by
  unfold roundFraction roundTo
  simp only [Nat.div_one, Nat.shiftLeft_eq, Nat.one_mul, Bool.or_eq_true, decide_eq_true_eq,
    Bool.and_eq_true, beq_iff_eq]

-- Rounding goes to one of the two multiples around a number.
theorem roundTo_bounds (k n : Nat) :
    n / 2 ^ k * 2 ^ k ≤ roundTo k n ∧ roundTo k n ≤ (n / 2 ^ k + 1) * 2 ^ k := by
  unfold roundTo
  split
  · exact ⟨Nat.mul_le_mul_right _ (Nat.le_succ _), Nat.le_refl _⟩
  · exact ⟨Nat.le_refl _, Nat.mul_le_mul_right _ (Nat.le_succ _)⟩

theorem roundTo_of_dvd (whole : 2 ^ k ∣ n) : roundTo k n = n := by
  have positive : 0 < 2 ^ k := Nat.two_pow_pos k
  unfold roundTo
  rw [Nat.mod_eq_zero_of_dvd whole, if_neg (by omega), Nat.div_mul_cancel whole]

/-- What is a double already is not rounded. -/
theorem roundFraction_one_of_dvd (whole : 2 ^ (n.log2 - 52) ∣ n) : roundFraction n 1 = n := by
  rw [roundFraction_one_eq, roundTo_of_dvd whole]

/-- Numbers rounded to the same multiples keep their order. -/
theorem roundTo_mono (k : Nat) (le : a ≤ b) : roundTo k a ≤ roundTo k b := by
  rcases Nat.lt_or_eq_of_le (Nat.div_le_div_right (c := 2 ^ k) le) with less | same
  · calc roundTo k a ≤ (a / 2 ^ k + 1) * 2 ^ k := (roundTo_bounds k a).2
      _ ≤ b / 2 ^ k * 2 ^ k := Nat.mul_le_mul_right _ less
      _ ≤ roundTo k b := (roundTo_bounds k b).1
  · -- Between the same two multiples, what is rounded up stays so when it grows.
    have rest : a % 2 ^ k ≤ b % 2 ^ k := by
      have one := Nat.div_add_mod a (2 ^ k)
      have two := Nat.div_add_mod b (2 ^ k)
      rw [same] at one
      omega
    unfold roundTo
    refine Nat.mul_le_mul_right _ ?_
    rw [same]
    split <;> split <;> omega

-- A rounded number is not beyond the powers of two around it.
theorem roundFraction_one_bounds (positive : 0 < n) :
    2 ^ n.log2 ≤ roundFraction n 1 ∧ roundFraction n 1 ≤ 2 ^ (n.log2 + 1) := by
  have split (j : Nat) (le : n.log2 - 52 ≤ j) :
      2 ^ j = 2 ^ (j - (n.log2 - 52)) * 2 ^ (n.log2 - 52) := by
    rw [← Nat.pow_add]
    congr 1
    omega
  have low := Nat.log2_self_le (Nat.pos_iff_ne_zero.mp positive)
  have high := Nat.lt_log2_self (n := n)
  rw [roundFraction_one_eq]
  constructor
  · refine Nat.le_trans ?_ (roundTo_bounds _ n).1
    rw [split n.log2 (by omega)] at low ⊢
    exact Nat.mul_le_mul_right _ ((Nat.le_div_iff_mul_le (Nat.two_pow_pos _)).mpr low)
  · refine Nat.le_trans (roundTo_bounds _ n).2 ?_
    rw [split (n.log2 + 1) (by omega)] at high ⊢
    exact Nat.mul_le_mul_right _ ((Nat.div_lt_iff_lt_mul (Nat.two_pow_pos _)).mpr high)

/-- Rounding keeps the order. -/
theorem roundFraction_one_mono (le : a ≤ b) : roundFraction a 1 ≤ roundFraction b 1 := by
  rcases Nat.eq_zero_or_pos a with rfl | positive
  · exact Nat.zero_le _
  have logs : a.log2 ≤ b.log2 := by
    have low := Nat.log2_self_le (Nat.pos_iff_ne_zero.mp positive)
    refine (Nat.le_log2 (by omega)).mpr (Nat.le_trans low le)
  rcases Nat.lt_or_eq_of_le logs with less | same
  · calc roundFraction a 1 ≤ 2 ^ (a.log2 + 1) := (roundFraction_one_bounds positive).2
      _ ≤ 2 ^ b.log2 := Nat.pow_le_pow_right (by decide) less
      _ ≤ roundFraction b 1 := (roundFraction_one_bounds (Nat.lt_of_lt_of_le positive le)).1
  · rw [roundFraction_one_eq, roundFraction_one_eq, same]
    exact roundTo_mono _ le

end Rounding

namespace Binary64

variable {n : Nat}

-- One as a power of two, whose exponent is not computed with.
theorem one_eq : ∃ p, p = 1074 ∧ one = 2 ^ p := by
  obtain ⟨p, places⟩ : ∃ p, p = 1074 := ⟨_, rfl⟩
  exact ⟨p, places, by rw [one, ← places, Nat.one_shiftLeft]⟩

theorem one_pos : 0 < one := by
  obtain ⟨p, -, unit⟩ := one_eq
  rw [unit]
  exact Nat.two_pow_pos p

-- A number below `2 ^ 53` has at most that many binary digits.
theorem log2_le (positive : 0 < n) (small : n < 2 ^ 53) : n.log2 ≤ 52 := by
  have low := Nat.log2_self_le (Nat.pos_iff_ne_zero.mp positive)
  have bound : n.log2 < 53 :=
    (Nat.pow_lt_pow_iff_right (by decide)).mp (Nat.lt_of_le_of_lt low small)
  omega

-- The units of a number have so many more.
theorem log2_units (positive : 0 < n) : (n * one).log2 = n.log2 + 1074 := by
  obtain ⟨p, places, unit⟩ := one_eq
  have nonzero := Nat.pos_iff_ne_zero.mp positive
  rw [Nat.log2_eq_iff (Nat.mul_ne_zero nonzero (Nat.pos_iff_ne_zero.mp one_pos)), unit, ← places,
    Nat.add_right_comm, Nat.pow_add, Nat.pow_add]
  exact ⟨Nat.mul_le_mul_right _ (Nat.log2_self_le nonzero),
    Nat.mul_lt_mul_of_pos_right Nat.lt_log2_self (Nat.two_pow_pos _)⟩

/-- A small whole number is a double. -/
theorem units_ofNat (small : n < 2 ^ 53) : (ofNat n).units = n * one := by
  rcases Nat.eq_zero_or_pos n with rfl | positive
  · show roundFraction (0 * one) 1 = 0 * one
    rw [Nat.zero_mul]
    rfl
  · refine roundFraction_one_of_dvd ?_
    obtain ⟨p, places, unit⟩ := one_eq
    have bound := log2_le positive small
    rw [log2_units positive, unit]
    exact Nat.dvd_mul_left_of_dvd (Nat.pow_dvd_pow 2 (by omega)) n

/-- Turning numbers into doubles keeps their order. -/
theorem ofNat_mono {m : Nat} (le : n ≤ m) : ofNat n ≤ ofNat m :=
  roundFraction_one_mono (Nat.mul_le_mul_right one le)

end Binary64

namespace Shortest

open Binary64 (one)

variable {n : Nat}

-- A double and the ends of its interval, by the gap to its neighbours.
theorem interval_eq (units : Nat) :
    ∃ below gap closed, interval units = ⟨4 * units - below, 4 * units + 2 * gap, closed⟩ ∧
      gap = 2 ^ (units.log2 - 52) ∧ 0 < below ∧ below ≤ 2 * gap := by
  refine ⟨_, _, _, rfl, Nat.one_shiftLeft _, ?_, ?_⟩
  · rw [Nat.one_shiftLeft]
    have positive := Nat.two_pow_pos (units.log2 - 52)
    split <;> omega
  · rw [Nat.one_shiftLeft]
    split <;> omega

/-- Of all whole numbers only a small one itself reads back as its double. -/
theorem holds_interval (positive : 0 < n) (small : n < 2 ^ 53) (v : Nat) :
    (interval (n * one)).holds v 1 = decide (v = n) := by
  obtain ⟨below, gap, closed, shape, width, some, narrow⟩ := interval_eq (n * one)
  -- The neighbours of the double are at most one away.
  have gap_le : gap ≤ one := by
    obtain ⟨p, places, unit⟩ := Binary64.one_eq
    have bound := Binary64.log2_le positive small
    rw [width, Binary64.log2_units positive, unit]
    exact Nat.pow_le_pow_right (by decide) (by omega)
  have unit := Binary64.one_pos
  have value : one ≤ n * one := Nat.le_mul_of_pos_left one positive
  have scaled : v * (4 * one) = 4 * (v * one) := Nat.mul_left_comm v 4 one
  rw [shape]
  unfold Interval.holds
  simp only [Nat.mul_one, scaled]
  by_cases same : v = n
  · subst same
    cases closed
    · simp
      omega
    · simp
  · have apart : v * one + one ≤ n * one ∨ n * one + one ≤ v * one := by
      rcases Nat.lt_or_gt_of_ne same with less | more
      · exact Or.inl (Nat.succ_mul v one ▸ Nat.mul_le_mul_right one less)
      · exact Or.inr (Nat.succ_mul n one ▸ Nat.mul_le_mul_right one more)
    cases closed <;> simp [same] <;> omega

-- If the upper of the two neighbours does not read back, only the lower one is left.
theorem candidate?_of_beyond {units k down : Nat} {e : Int}
    (places : magnitude units - (k : Int) = e)
    (value : units * Nat.pow 10 (-e).toNat / (one * Nat.pow 10 e.toNat) = down)
    (beyond : (interval units).holds ((down + 1) * Nat.pow 10 e.toNat) (Nat.pow 10 (-e).toNat) =
      false) :
    candidate? units k =
      if (interval units).holds (down * Nat.pow 10 e.toNat) (Nat.pow 10 (-e).toNat) then
        some (down, e) else none := by
  unfold candidate?
  simp only [places, value, beyond]
  cases (interval units).holds (down * Nat.pow 10 e.toNat) (Nat.pow 10 (-e).toNat) <;> rfl

-- A small whole number has as many digits before the point as it has digits.
theorem magnitude_whole (positive : 0 < n) :
    magnitude (n * one) = ((Nat.toDigits 10 n).length : Int) := by
  rw [magnitude, if_pos (Nat.le_mul_of_pos_left one positive),
    Nat.mul_div_cancel n Binary64.one_pos]

/-- A decimal with so many trailing places reads back as a small whole number exactly if
    those are zeros. -/
theorem candidate?_whole (positive : 0 < n) (small : n < 2 ^ 53) {j : Nat}
    (le : j ≤ (Nat.toDigits 10 n).length) :
    candidate? (n * one) ((Nat.toDigits 10 n).length - j) =
      if 10 ^ j ∣ n then some (n / 10 ^ j, (j : Int)) else none := by
  have places :
      magnitude (n * one) - (((Nat.toDigits 10 n).length - j : Nat) : Int) = (j : Int) := by
    rw [magnitude_whole positive]
    omega
  have scale : Nat.pow 10 (-(j : Int)).toNat = 1 ∧ Nat.pow 10 (j : Int).toNat = 10 ^ j := by
    rw [Int.toNat_natCast, show (-(j : Int)).toNat = 0 by omega]
    exact ⟨rfl, rfl⟩
  have down : n * one * Nat.pow 10 (-(j : Int)).toNat / (one * Nat.pow 10 (j : Int).toNat) =
      n / 10 ^ j := by
    rw [scale.1, scale.2, Nat.mul_one, Nat.mul_comm n, Nat.mul_div_mul_left _ _ Binary64.one_pos]
  -- The next multiple of the power is beyond the number.
  have above : (n / 10 ^ j + 1) * 10 ^ j ≠ n := by
    have parts := Nat.div_add_mod' n (10 ^ j)
    have rest := Nat.mod_lt n (Nat.pow_pos (n := j) (by decide : 0 < 10))
    rw [Nat.succ_mul]
    omega
  have beyond : (interval (n * one)).holds ((n / 10 ^ j + 1) * Nat.pow 10 (j : Int).toNat)
      (Nat.pow 10 (-(j : Int)).toNat) = false := by
    rw [scale.1, scale.2, holds_interval positive small]
    exact decide_eq_false above
  have same : n / 10 ^ j * 10 ^ j = n ↔ 10 ^ j ∣ n :=
    ⟨fun same => ⟨_, (Nat.mul_comm _ _ ▸ same).symm⟩, Nat.div_mul_cancel⟩
  rw [candidate?_of_beyond places down beyond, scale.1, scale.2, holds_interval positive small]
  simp only [decide_eq_true_eq, same]

-- What is found among the first numbers is found among more of them.
theorem findSome?_range_mono {α : Type} {f : Nat → Option α} {k m : Nat} {a : α} (le : k ≤ m)
    (found : (List.range k).findSome? f = some a) : (List.range m).findSome? f = some a := by
  rw [← Nat.add_sub_cancel' le, List.range_add, List.findSome?_append, found, Option.some_or]

-- Once a number of digits was enough, no more are tried.
theorem digits_of_found {units k : Nat} {d : Nat × Int} (le : k ≤ 17)
    (found : (List.range k).findSome? (fun j => candidate? units (j + 1)) = some d) :
    digits units = trim d := by
  unfold digits
  simp only [findSome?_range_mono le found]

/-- The shortest decimal of a small whole number has its value. -/
theorem digits_whole (positive : 0 < n) (small : n < 2 ^ 53) :
    ∃ c j : Nat, digits (n * one) = (c, (j : Int)) ∧ c * 10 ^ j = n := by
  obtain ⟨length, known⟩ : ∃ length, length = (Nat.toDigits 10 n).length := ⟨_, rfl⟩
  have some : 0 < length := known ▸ Nat.length_toDigits_pos
  have enough : length ≤ 17 :=
    known ▸ (Nat.length_toDigits_le_iff (by decide) (by decide)).mpr (by omega)
  have tried (k : Nat) (less : k < length) :
      candidate? (n * one) (k + 1) = if 10 ^ (length - (k + 1)) ∣ n then
        Option.some (n / 10 ^ (length - (k + 1)), ((length - (k + 1) : Nat) : Int)) else none := by
    have here := candidate?_whole positive small (j := length - (k + 1))
      (known ▸ Nat.sub_le _ _)
    rwa [← known, Nat.sub_sub_self less] at here
  -- All digits of the number are tried at last, so no more digits than those are.
  obtain ⟨d, found⟩ : ∃ d, (List.range length).findSome? (fun k => candidate? (n * one) (k + 1)) =
      Option.some d := by
    refine Option.isSome_iff_exists.mp (List.findSome?_isSome_iff.mpr
      ⟨length - 1, List.mem_range.mpr (by omega), ?_⟩)
    rw [tried _ (by omega), Nat.sub_add_cancel some, Nat.sub_self, Nat.pow_zero,
      if_pos (Nat.one_dvd n)]
    rfl
  have taken : digits (n * one) = trim d := digits_of_found enough found
  obtain ⟨k, mem, value⟩ := List.exists_of_findSome?_eq_some found
  rw [tried k (List.mem_range.mp mem)] at value
  split at value
  · rename_i whole
    have same := Nat.div_mul_cancel whole
    cases value
    -- A single digit that is ten is one with a zero more.
    by_cases ten : n / 10 ^ (length - (k + 1)) = 10
    · refine ⟨1, length - (k + 1) + 1, by rw [taken, trim, if_pos ten]; rfl, ?_⟩
      rw [Nat.one_mul, Nat.pow_succ', ← same, ten, Nat.mul_comm]
    · exact ⟨_, _, by rw [taken, trim, if_neg ten], same⟩
  · cases value

/-- Zeros behind the digits of a number are digits of a larger one. -/
theorem toDigits_zeros {c : Nat} (positive : 0 < c) (j : Nat) :
    Nat.toDigits 10 c ++ List.replicate j '0' = Nat.toDigits 10 (c * 10 ^ j) := by
  induction j with
  | zero => simp
  | succ j ih =>
    have more := Nat.toDigits_append_toDigits (b := 10) (d := 0) (by decide)
      (Nat.mul_pos positive (Nat.pow_pos (n := j) (by decide : 0 < 10))) (by decide)
    rw [List.replicate_succ', ← List.append_assoc, ih, Nat.pow_succ, ← Nat.mul_assoc,
      Nat.mul_comm _ 10]
    exact more

-- Whole steps of a power of ten are written as digits and zeros.
theorem positional_natCast (c j : Nat) :
    positional c (j : Int) = String.ofList (Nat.toDigits 10 c ++ List.replicate j '0') := by
  rw [positional, if_pos (Int.natCast_nonneg j), Int.toNat_natCast]

end Shortest

namespace Binary64

variable {n : Nat}

/-- A small whole number is shown by its digits. -/
theorem render_ofNat (small : n ≤ 2 ^ 53) : (ofNat n).render = toString n := by
  rcases Nat.eq_zero_or_pos n with rfl | positive
  · rfl
  · rcases Nat.lt_or_eq_of_le small with less | rfl
    · obtain ⟨c, j, shortest, value⟩ := Shortest.digits_whole positive less
      have some : 0 < c := by
        refine Nat.pos_of_ne_zero fun zero => ?_
        rw [zero, Nat.zero_mul] at value
        omega
      have nonzero : n * one ≠ 0 := Nat.pos_iff_ne_zero.mp (Nat.mul_pos positive one_pos)
      rw [render, units_ofNat less, if_neg nonzero, shortest, Shortest.positional_natCast,
        Shortest.toDigits_zeros some, value]
      rfl
    · decide +kernel

-- The digits of a number, with whatever zeros, are digits.
theorem mem_render {x : Binary64} {c : Char} (mem : c ∈ x.render.toList) :
    c.isDigit ∨ c = '.' := by
  have digit (m : Nat) (mem : c ∈ Nat.toDigits 10 m) : c.isDigit :=
    Nat.isDigit_of_mem_toDigits (by decide) (by decide) mem
  have zero (m : Nat) (mem : c ∈ List.replicate m '0') : c.isDigit :=
    List.eq_of_mem_replicate mem ▸ rfl
  unfold render at mem
  split at mem
  · exact Or.inl (List.mem_singleton.mp mem ▸ rfl)
  · dsimp only [Shortest.positional] at mem
    split at mem
    · rw [String.toList_ofList, List.mem_append] at mem
      exact Or.inl (mem.elim (digit _) (zero _))
    · rw [String.toList_ofList, List.mem_append, List.mem_cons] at mem
      rcases mem with before | point | behind
      · exact Or.inl ((List.mem_append.mp (List.mem_of_mem_take before)).elim (zero _) (digit _))
      · exact Or.inr point
      · exact Or.inl ((List.mem_append.mp (List.mem_of_mem_drop behind)).elim (zero _) (digit _))

end Binary64

end TxRelay
