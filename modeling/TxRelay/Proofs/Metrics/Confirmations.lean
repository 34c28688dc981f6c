import TxRelay.Proofs.Metrics.Families

/-!
# Confirmations in the Exposition

What the exposition says about the confirmations of a chain, after any run of calls. A
chain whose confirmations were recorded has one number of confirmations and one
histogram, and the two agree: the last bucket, the number of latencies and the number of
confirmations count the same calls. Each bucket counts the latencies up to its bound.

Numbers are doubles. A counter that is raised one at a time stops at `2 ^ 53`; the
number of latencies goes on, and beyond `2 ^ 53` it is shown as the nearest double.

## Main definitions

* `Exposition.countText`: A number as it is shown.
* `Exposition.upTo`: How many latencies do not exceed a bound.
* `Exposition.Tells`: What a text says about the confirmations of a chain.

## Theorems

* `Metrics.ofChain_confirmed`, `Metrics.ofChain_latency`: The samples of a chain's
  confirmations.
* `Exposition.tells`: What those samples say.
* `Metrics.confirmations_exported`: The exposition tells of all confirmations, of each
  chain for itself and in order.
-/

namespace TxRelay

namespace Exposition

/-- A number as it is shown: by its digits, and beyond `2 ^ 53` as the nearest double. -/
def countText (n : Nat) : String :=
  if n ≤ 2 ^ 53 then toString n else (Binary64.ofNat n).render

/-- The family of the numbers of confirmations. -/
def confirmedFamily : String := "tx_submitter_transactions_confirmed_total"

/-- The family of the latencies. -/
def latencyFamily : String := "tx_submitter_confirmation_latency_seconds"

/-- A bucket of a chain: its bound and how many latencies it counts. -/
def bucketReading (chain : ChainId) (bound : String) (n : Nat) : Reading :=
  ⟨latencyFamily ++ "_bucket", [("chain_id", toString chain), ("le", bound)], countText n⟩

/-- The number of latencies up to a bound in seconds. -/
def upTo (latencies : List Binary64) (bound : Rat) : Nat :=
  latencies.countP fun latency => decide (latency.seconds ≤ bound)

/-- The histogram of some latencies. A bucket counts those up to its bound, the last one
    all of them, as does the number behind the sum. -/
def histogramReadings (chain : ChainId) (latencies : List Binary64) : List Reading :=
  (Histogram.limits.map fun b => bucketReading chain b.2 (upTo latencies b.1)) ++
    [ bucketReading chain "+Inf" latencies.length,
      ⟨latencyFamily ++ "_sum", [("chain_id", toString chain)],
        (latencies.foldl Binary64.add .zero).render⟩,
      ⟨latencyFamily ++ "_count", [("chain_id", toString chain)], countText latencies.length⟩ ]

/-- What a text says about the confirmations on a chain with these latencies. -/
structure Tells (text : String) (chain : ChainId) (latencies : List Binary64) : Prop where
  /-- One sample is their number. -/
  number : ofChain confirmedFamily chain text =
    [⟨confirmedFamily, [("chain_id", toString chain)], toString (min latencies.length (2 ^ 53))⟩]
  /-- One histogram is theirs. -/
  histogram : ofChain latencyFamily chain text = histogramReadings chain latencies
  /-- From bucket to bucket the counts do not fall, nor do the doubles that stand for them. -/
  rising : ∃ counts : List Nat, counts.Pairwise (· ≤ ·) ∧
    (counts.map Binary64.ofNat).Pairwise (· ≤ ·) ∧
    ((ofChain latencyFamily chain text).filter (·.name == latencyFamily ++ "_bucket")).map
      (·.value) = counts.map countText
  /-- The last bucket, the number of latencies and the number of confirmations agree. -/
  agreed : latencies.length ≤ 2 ^ 53 →
    ((ofChain latencyFamily chain text).filter
        fun r => labelled "le" "+Inf" r.labels || r.name == latencyFamily ++ "_count").map
      (·.value) = [toString latencies.length, toString latencies.length] ∧
    (ofChain confirmedFamily chain text).map (·.value) = [toString latencies.length]

-- Small numbers are shown by their digits.
theorem natText_eq (n : Nat) : natText n = countText n := by
  rw [natText, countText]
  split
  · rename_i small
    exact Binary64.render_ofNat small
  · rfl

theorem countText_eq {n : Nat} (small : n ≤ 2 ^ 53) : countText n = toString n :=
  if_pos small

-- A counter does not go beyond what is shown by its digits.
theorem natText_shown (n : Nat) : natText (Counter.shown n) = toString (min n (2 ^ 53)) :=
  (natText_eq _).trans (countText_eq (Nat.min_le_right n _))

section Readings

variable (chain : ChainId) (latencies : List Binary64)

theorem upTo_mono {a b : Rat} (le : a ≤ b) : upTo latencies a ≤ upTo latencies b :=
  List.countP_mono_left fun _ _ within =>
    decide_eq_true (Rat.le_trans (of_decide_eq_true within) le)

/-- A histogram of latencies is read as just that. -/
theorem histogram_ofLatencies :
    ((histogramSamples "chain_id" (toString chain) (.ofLatencies latencies)).map fun s =>
      (⟨latencyFamily ++ s.suffix, s.labels, s.value⟩ : Reading)) =
        histogramReadings chain latencies := by
  have counts (b : Binary64 × String) :
      latencies.countP (· ≤ b.1) = upTo latencies b.1.seconds :=
    List.countP_congr fun latency _ => by
      rw [decide_eq_true_iff, decide_eq_true_iff]
      exact latency.le_iff_seconds b.1
  have zipped : Histogram.bounds.zip (Histogram.ofLatencies latencies).cumulative =
      Histogram.bounds.map fun b => (b, upTo latencies b.1.seconds) := by
    have pairs := List.zip_map' (f := id) (g := fun b => upTo latencies b.1.seconds)
      (l := Histogram.bounds)
    rw [List.map_id] at pairs
    rw [Histogram.cumulative_ofLatencies, List.map_congr_left fun b _ => counts b, pairs]
    rfl
  rw [histogramSamples, zipped, Histogram.count_ofLatencies, Histogram.sum_ofLatencies,
    histogramReadings, ← Histogram.bounds_seconds]
  simp only [natText_eq, List.map_append, List.map_map]
  rfl

-- The buckets among the samples of a histogram.
theorem filter_buckets :
    (histogramReadings chain latencies).filter (·.name == latencyFamily ++ "_bucket") =
      (Histogram.limits.map fun b => bucketReading chain b.2 (upTo latencies b.1)) ++
        [bucketReading chain "+Inf" latencies.length] := by
  have limits (r : Reading) (mem : r ∈ Histogram.limits.map fun b =>
      bucketReading chain b.2 (upTo latencies b.1)) :
      (r.name == latencyFamily ++ "_bucket") = true := by
    obtain ⟨b, -, rfl⟩ := List.mem_map.mp mem
    exact beq_self_eq_true _
  rw [histogramReadings, List.filter_append, List.filter_eq_self.mpr limits]
  rfl

-- The last bucket and the number among the samples of a histogram.
theorem filter_whole :
    (histogramReadings chain latencies).filter
        (fun r => labelled "le" "+Inf" r.labels || r.name == latencyFamily ++ "_count") =
      [ bucketReading chain "+Inf" latencies.length,
        ⟨latencyFamily ++ "_count", [("chain_id", toString chain)],
          countText latencies.length⟩ ] := by
  have finite : ∀ b ∈ Histogram.limits, (b.2 == "+Inf") = false := by decide
  have series : (latencyFamily ++ "_bucket" == latencyFamily ++ "_count") = false := by
    decide +kernel
  have limits (r : Reading) (mem : r ∈ Histogram.limits.map fun b =>
      bucketReading chain b.2 (upTo latencies b.1)) :
      ¬ (labelled "le" "+Inf" r.labels || r.name == latencyFamily ++ "_count") = true := by
    obtain ⟨b, isLimit, rfl⟩ := List.mem_map.mp mem
    have bound : labelled "le" "+Inf" [("chain_id", toString chain), ("le", b.2)] = false := by
      rw [labelled, List.lookup_cons, show ("le" == "chain_id") = false from rfl]
      exact (labelled_cons "le" b.2 "+Inf" []).trans (finite b isLimit)
    rw [bucketReading, bound, series]
    decide
  rw [histogramReadings, List.filter_append, List.filter_eq_nil_iff.mpr limits]
  rfl

/-- What a text says whose samples are those of some latencies. -/
theorem tells {text : String}
    (number : ofChain confirmedFamily chain text =
      [⟨confirmedFamily, [("chain_id", toString chain)], toString (min latencies.length (2 ^ 53))⟩])
    (histogram : ofChain latencyFamily chain text = histogramReadings chain latencies) :
    Tells text chain latencies := by
  refine ⟨number, histogram, ?_, fun small => ?_⟩
  · have rise : Histogram.limits.Pairwise (·.1 ≤ ·.1) := by decide +kernel
    have counts : ((Histogram.limits.map fun b => upTo latencies b.1) ++
        [latencies.length]).Pairwise (· ≤ ·) := by
      refine List.pairwise_append.mpr ⟨?_, List.pairwise_singleton _ _, fun n mem m last => ?_⟩
      · exact List.pairwise_map.mpr (rise.imp (upTo_mono latencies))
      · obtain ⟨b, -, rfl⟩ := List.mem_map.mp mem
        rw [List.mem_singleton.mp last]
        exact List.countP_le_length
    refine ⟨_, counts, List.pairwise_map.mpr (counts.imp Binary64.ofNat_mono), ?_⟩
    rw [histogram, filter_buckets]
    simp only [bucketReading, List.map_append, List.map_map]
    rfl
  · rw [histogram, number, filter_whole, Nat.min_eq_left small]
    simp only [List.map_cons, List.map_nil, bucketReading, countText_eq small, and_self]

end Readings

end Exposition

namespace Metrics

open Exposition

variable {m : Metrics}

/-- The number of confirmations of a chain, as it stands under its label. -/
theorem ofChain_confirmed (ordered : m.Ordered) (chain : ChainId) :
    ofChain confirmedFamily chain m.exposition =
      (m.view (toString chain)).confirmed.toList.map fun n =>
        ⟨confirmedFamily, [("chain_id", toString chain)], natText n⟩ := by
  rw [ofChain_exposition (f := perLabel confirmedFamily
    "Transactions observed leaving the pending pool" "counter" "chain_id" m.confirmed) chain rfl,
    carried_perLabel ordered.confirmed, List.map_map]
  rfl

/-- The histogram of a chain's latencies, as it stands under its label. -/
theorem ofChain_latency (ordered : m.Ordered) (chain : ChainId) :
    ofChain latencyFamily chain m.exposition =
      (m.view (toString chain)).latency.toList.flatMap fun h =>
        (histogramSamples "chain_id" (toString chain) h).map fun s =>
          ⟨latencyFamily ++ s.suffix, s.labels, s.value⟩ := by
  rw [ofChain_exposition (f := ⟨latencyFamily, "Time from broadcast to leaving the pending pool",
    "histogram", m.latency.flatMap fun v => histogramSamples "chain_id" v.1 v.2⟩) chain rfl,
    carried_histograms ordered.latency, List.map_flatMap]
  rfl

/-- After any run of calls the exposition tells of the confirmations of each chain, and of
    a chain without any it says nothing. What it says about a chain depends on the calls
    about that chain alone. In each family the samples are in the order of their labels. -/
theorem confirmations_exported (calls : List Recording) :
    (∀ chain,
      if latencies chain calls = [] then
        ofChain confirmedFamily chain (after calls).exposition = [] ∧
          ofChain latencyFamily chain (after calls).exposition = []
      else Tells (after calls).exposition chain (latencies chain calls)) ∧
    (∀ chain,
      linesAbout "chain_id" (toString chain) (after calls).exposition =
        linesAbout "chain_id" (toString chain)
          (after (calls.filter (·.chain? == some chain))).exposition) ∧
    ∀ family ∈ page (after calls).exposition,
      family.2.Pairwise fun a b => firstLabel a.labels ≤ firstLabel b.labels := by
  have ordered := ordered_after calls
  refine ⟨fun chain => ?_, fun chain => ?_, fun family mem => ?_⟩
  · obtain ⟨number, histogram⟩ := confirmations_after calls chain
    split
    · rename_i none
      rw [ofChain_confirmed ordered, ofChain_latency ordered, number, histogram, if_pos none,
        if_pos none]
      exact ⟨rfl, rfl⟩
    · rename_i some
      refine tells chain (latencies chain calls) ?_ ?_
      · rw [ofChain_confirmed ordered, number, if_neg some, Option.toList_some, List.map_singleton,
          natText_shown]
      · rw [ofChain_latency ordered, histogram, if_neg some, Option.toList_some,
          List.flatMap_singleton, histogram_ofLatencies]
  · exact linesAbout_view ordered (ordered_after _) (view_after_filter calls chain).symm
  · rw [page_exposition] at mem
    obtain ⟨f, isFamily, rfl⟩ := List.mem_map.mp mem
    exact List.pairwise_map.mpr (inOrder_families ordered f isFamily)

end Metrics

end TxRelay
