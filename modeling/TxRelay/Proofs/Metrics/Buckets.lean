import TxRelay.Metrics.Registry
import TxRelay.Proofs.Decimal.Whole
import Mathlib.Data.List.Induction

/-!
# Latencies in Buckets

A histogram keeps how many latencies fell between two bounds and shows the running
totals. Those are the numbers of latencies up to each bound, because the bounds rise: a
latency that does not exceed one of them does not exceed the later ones either.

## Main definitions

* `Binary64.seconds`: A double as a fraction.
* `Histogram.limits`: The bounds in seconds, as fractions.
* `Histogram.ofLatencies`: The histogram of some latencies.
* `Histogram.raise`: Totals with one latency more.

## Theorems

* `Binary64.le_iff_seconds`: Doubles compare as the fractions they are.
* `Histogram.running_place`: One latency more in the running totals.
* `Histogram.count_ofLatencies`, `sum_ofLatencies`: The number and the sum.
* `Histogram.cumulative_ofLatencies`: Each bucket counts the latencies up to its bound.
-/

namespace TxRelay

namespace Binary64

/-- A double as a fraction. -/
def seconds (x : Binary64) : Rat :=
  x.units / one

/-- Doubles compare as the fractions they are. -/
theorem le_iff_seconds (x y : Binary64) : x ≤ y ↔ x.seconds ≤ y.seconds := by
  have positive : (0 : Rat) < one := Rat.natCast_pos.mpr one_pos
  have less : y.seconds < x.seconds ↔ y.units < x.units := by
    rw [seconds, seconds, Rat.div_lt_iff positive, Rat.div_mul_cancel (Rat.ne_of_gt positive),
      Rat.natCast_lt_natCast]
  rw [← Rat.not_lt, less, Nat.not_lt]
  rfl

end Binary64

namespace Histogram

/-- The bounds of the buckets in seconds, as fractions. -/
def limits : List (Rat × String) :=
  [(1 / 2, "0.5"), (1, "1"), (5 / 2, "2.5"), (5, "5"), (10, "10"), (30, "30"), (60, "60"),
   (120, "120"), (300, "300")]

/-- The bounds are exactly these fractions. -/
theorem bounds_seconds : bounds.map (fun b => (b.1.seconds, b.2)) = limits := by
  decide +kernel

section Buckets

variable {latency : Binary64}

-- The running totals from one more.
theorem running_succ (total : Nat) (counts : List Nat) :
    running (total + 1) counts = (running total counts).map (· + 1) := by
  induction counts generalizing total with
  | nil => rfl
  | cons n rest ih =>
    rw [running, running, List.map_cons, Nat.add_right_comm, ih]

theorem length_running (total : Nat) (counts : List Nat) :
    (running total counts).length = counts.length := by
  induction counts generalizing total with
  | nil => rfl
  | cons n rest ih => exact congrArg (· + 1) (ih (total + n))

/-- The running totals with one more at each bound that a latency does not exceed. -/
def raise (latency : Binary64) (bounds : List (Binary64 × String)) (totals : List Nat) : List Nat :=
  List.zipWith (fun b n => if latency ≤ b.1 then n + 1 else n) bounds totals

-- A latency that exceeds no bound is one more everywhere.
theorem raise_all {bounds : List (Binary64 × String)} {totals : List Nat}
    (all : ∀ b ∈ bounds, latency ≤ b.1) (same : totals.length = bounds.length) :
    raise latency bounds totals = totals.map (· + 1) := by
  induction bounds generalizing totals with
  | nil =>
    rw [List.length_eq_zero_iff.mp same]
    rfl
  | cons bound bounds ih =>
    rcases totals with _ | ⟨n, rest⟩
    · cases same
    rw [raise, List.zipWith_cons_cons, if_pos (all bound List.mem_cons_self), List.map_cons]
    exact congrArg _ (ih (fun b mem => all b (List.mem_cons_of_mem _ mem)) (Nat.succ.inj same))

/-- A latency is one more in the totals of all bounds that it does not exceed, because
    the bounds rise. -/
theorem running_place {bounds : List (Binary64 × String)} {counts : List Nat} (total : Nat)
    (rise : bounds.Pairwise (·.1 ≤ ·.1)) (same : counts.length = bounds.length) :
    running total (place latency bounds counts) = raise latency bounds (running total counts) := by
  induction bounds generalizing counts total with
  | nil =>
    rw [List.length_eq_zero_iff.mp same]
    rfl
  | cons bound bounds ih =>
    rcases counts with _ | ⟨n, rest⟩
    · cases same
    have split := List.pairwise_cons.mp rise
    have length : rest.length = bounds.length := Nat.succ.inj same
    rw [running, raise, List.zipWith_cons_cons]
    by_cases here : latency ≤ bound.1
    · have later : raise latency bounds (running (total + n) rest) =
          (running (total + n) rest).map (· + 1) :=
        raise_all (fun b mem => Nat.le_trans here (split.1 b mem))
          ((length_running _ rest).trans length)
      rw [place, if_pos here, if_pos here, running, ← Nat.add_assoc, running_succ, ← later]
      rfl
    · rw [place, if_neg here, if_neg here, running, ih (total + n) split.2 length]
      rfl

theorem length_place {bounds : List (Binary64 × String)} {counts : List Nat} :
    (place latency bounds counts).length = counts.length := by
  induction bounds generalizing counts with
  | nil => rfl
  | cons bound bounds ih =>
    rcases counts with _ | ⟨n, rest⟩
    · rfl
    rw [place]
    split
    · rfl
    · exact congrArg (· + 1) ih

end Buckets

/-- A histogram of latencies. -/
def ofLatencies (latencies : List Binary64) : Histogram :=
  latencies.foldl (fun h latency => h.observe latency) .empty

variable (latencies : List Binary64)

theorem ofLatencies_concat (latency : Binary64) :
    ofLatencies (latencies ++ [latency]) = (ofLatencies latencies).observe latency := by
  rw [ofLatencies, List.foldl_append]
  rfl

theorem count_ofLatencies : (ofLatencies latencies).count = latencies.length := by
  induction latencies using List.reverseRecOn with
  | nil => rfl
  | append_singleton latencies latency ih =>
    rw [ofLatencies_concat, observe, ih, List.length_append]
    rfl

theorem sum_ofLatencies : (ofLatencies latencies).sum = latencies.foldl Binary64.add .zero := by
  induction latencies using List.reverseRecOn with
  | nil => rfl
  | append_singleton latencies latency ih =>
    rw [ofLatencies_concat, observe, ih, List.foldl_append]
    rfl

theorem length_ofLatencies : (ofLatencies latencies).buckets.length = bounds.length := by
  induction latencies using List.reverseRecOn with
  | nil => rfl
  | append_singleton latencies latency ih =>
    rw [ofLatencies_concat, observe, length_place, ih]

theorem bounds_rise : bounds.Pairwise (·.1 ≤ ·.1) := by
  decide +kernel

/-- Each bucket counts the latencies up to its bound. -/
theorem cumulative_ofLatencies :
    (ofLatencies latencies).cumulative = bounds.map fun b => latencies.countP (· ≤ b.1) := by
  induction latencies using List.reverseRecOn with
  | nil => rfl
  | append_singleton latencies latency ih =>
    have more (b : Binary64) : (latencies ++ [latency]).countP (· ≤ b) =
        if latency ≤ b then latencies.countP (· ≤ b) + 1 else latencies.countP (· ≤ b) := by
      rw [List.countP_append, List.countP_singleton]
      by_cases le : latency ≤ b
      · rw [if_pos le, if_pos (decide_eq_true le)]
      · rw [if_neg le, if_neg (Bool.not_eq_true _ ▸ decide_eq_false le), Nat.add_zero]
    rw [ofLatencies_concat, cumulative, observe, running_place 0 bounds_rise
      (length_ofLatencies latencies), ← cumulative, ih, raise, List.zipWith_map_right,
      List.zipWith_self]
    exact List.map_congr_left fun b _ => (more b.1).symm

end Histogram

end TxRelay
