import TxRelay.Proofs.Metrics.Page
import TxRelay.Proofs.Metrics.Recording

/-!
# Families in the Exposition

What the text shows of each family. Under a label a family has at most one number or one
histogram, because labels rise, and so the samples of a chain are what stands under its
label. The lines about a chain depend on that alone. As labels rise, the samples of a
family are in the order of their labels as text.

## Main definitions

* `Exposition.samplesOf`, `Exposition.ofChain`: The samples of a family, and those of a
  chain among them.
* `Exposition.carried`: The samples of a family that carry a label with a value.
* `Metrics.InOrder`: Samples in the order of their labels.

## Theorems

* `Exposition.carried_perLabel`, `carried_histograms`: What carries a label.
* `Metrics.ofChain_exposition`: The samples of a chain in a family.
* `Metrics.linesAbout_view`: The lines about a chain depend on what stands under its label.
* `Metrics.inOrder_families`: The samples of a family are in the order of their labels.
-/

namespace TxRelay

namespace Labelled

variable {α : Type} {label : String}

/-- There is at most one entry under a label. -/
theorem filter_label {values : Labelled α} (sorted : values.Sorted) :
    values.filter (·.1 == label) = (get? label values).toList.map (Prod.mk label) := by
  induction values with
  | nil => rfl
  | cons entry rest ih =>
    rcases entry with ⟨l, a⟩
    have split := List.pairwise_cons.mp sorted
    rw [List.filter_cons, get?, List.lookup_cons]
    by_cases here : l = label
    · subst here
      have none : rest.filter (·.1 == l) = [] :=
        List.filter_eq_nil_iff.mpr fun e mem same =>
          String.lt_irrefl l (beq_iff_eq.mp same ▸ split.1 e mem)
      rw [if_pos (beq_self_eq_true l), beq_self_eq_true, none]
      rfl
    · rw [if_neg (mt beq_iff_eq.mp here), beq_eq_false_iff_ne.mpr (Ne.symm here)]
      exact ih split.2

end Labelled

namespace Exposition

/-- The samples of a family in a text. -/
def samplesOf (family text : String) : List Reading :=
  ((page text).filter (·.1 == family)).flatMap (·.2)

/-- The samples of a family that carry the label of a chain. -/
def ofChain (family : String) (chain : ChainId) (text : String) : List Reading :=
  (samplesOf family text).filter (labelled "chain_id" (toString chain) ·.labels)

/-- The value of the first label, by which samples are ordered. -/
def firstLabel (labels : List (String × String)) : String :=
  (labels.head?.map (·.2)).getD ""

section Lists

variable {α β : Type} {p : β → Bool} {q : α → Bool} {g : α → List β}

-- What decides for a whole part can be asked of the part.
theorem filter_flatMap_of (same : ∀ a, ∀ b ∈ g a, p b = q a) (l : List α) :
    (l.flatMap g).filter p = (l.filter q).flatMap g := by
  induction l with
  | nil => rfl
  | cons a rest ih =>
    rw [List.flatMap_cons, List.filter_append, ih, List.filter_cons]
    split
    · rename_i yes
      rw [List.flatMap_cons, List.filter_eq_self.mpr fun b mem => (same a b mem).trans yes]
    · rename_i no
      rw [List.filter_eq_nil_iff.mpr fun b mem => same a b mem ▸ no, List.nil_append]

-- Parts without anything in them can be left out.
theorem flatMap_filter_of (empty : ∀ a, q a = false → g a = []) (l : List α) :
    (l.filter q).flatMap g = l.flatMap g := by
  induction l with
  | nil => rfl
  | cons a rest ih =>
    rw [List.filter_cons, List.flatMap_cons]
    split
    · rw [List.flatMap_cons, ih]
    · rename_i no
      rw [ih, empty a (Bool.not_eq_true _ ▸ no), List.nil_append]

end Lists

section Carried

variable {name help kind label other value : String}

/-- The samples of a family that carry a label with a value. -/
def carried (label value : String) (f : Family) : List Sample :=
  f.samples.filter (labelled label value ·.labels)

theorem labelled_cons (label v value : String) (rest : List (String × String)) :
    labelled label value ((label, v) :: rest) = (v == value) := by
  rw [labelled, List.lookup_cons_self]
  rfl

-- The first label of a sample says whose histogram it belongs to.
theorem labels_histogram {h : Histogram} {s : Sample} (mem : s ∈ histogramSamples label value h) :
    ∃ rest, s.labels = (label, value) :: rest := by
  rcases List.mem_append.mp mem with bucket | other
  · obtain ⟨b, -, rfl⟩ := List.mem_map.mp bucket
    exact ⟨_, rfl⟩
  · simp only [List.mem_cons, List.not_mem_nil, or_false] at other
    rcases other with rfl | rfl | rfl <;> exact ⟨_, rfl⟩

/-- Of numbers under labels, one at most carries a value. -/
theorem carried_perLabel {values : Labelled Nat} (sorted : values.Sorted) :
    carried label value (perLabel name help kind label values) =
      (values.get? value).toList.map fun n => ⟨"", [(label, value)], natText n⟩ := by
  rw [carried, perLabel, List.filter_map]
  simp only [Function.comp_def, labelled_cons]
  rw [Labelled.filter_label sorted, List.map_map]
  rfl

-- Numbers under other labels carry none.
theorem carried_other {values : Labelled Nat} (differ : label ≠ other) :
    carried label value (perLabel name help kind other values) = [] := by
  refine List.filter_eq_nil_iff.mpr fun s mem carries => ?_
  obtain ⟨v, -, rfl⟩ := List.mem_map.mp mem
  rw [labelled, List.lookup_cons, beq_eq_false_iff_ne.mpr differ] at carries
  cases carries

/-- The samples of one histogram at most carry a value. -/
theorem carried_histograms {values : Labelled Histogram} (sorted : values.Sorted) :
    carried label value
        ⟨name, help, kind, values.flatMap fun v => histogramSamples label v.1 v.2⟩ =
      (values.get? value).toList.flatMap fun h => histogramSamples label value h := by
  have same (v : String × Histogram) (s : Sample) (mem : s ∈ histogramSamples label v.1 v.2) :
      labelled label value s.labels = (v.1 == value) := by
    obtain ⟨rest, labels⟩ := labels_histogram mem
    rw [labels, labelled_cons]
  rw [carried, filter_flatMap_of same, Labelled.filter_label sorted, List.flatMap_map]

end Carried

end Exposition

namespace Metrics

open Exposition

variable {m : Metrics}

-- Families without samples are left out, which does not matter to what is put together
-- from samples.
theorem flatMap_shown {α : Type} {g : Family → List α} (empty : ∀ f, f.samples = [] → g f = [])
    (l : List Family) : (l.filter fun f => !f.samples.isEmpty).flatMap g = l.flatMap g :=
  flatMap_filter_of (fun f none => empty f (by simpa using none)) l

/-- The samples of a family. -/
theorem samplesOf_exposition (family : String) (m : Metrics) :
    samplesOf family m.exposition =
      (m.allFamilies.filter (·.name == family)).flatMap fun f => f.samples.map f.reading := by
  have shown : (m.families.map fun f => (f.name, f.samples.map f.reading)).filter (·.1 == family) =
      ((m.allFamilies.filter (·.name == family)).filter fun f => !f.samples.isEmpty).map
        fun f => (f.name, f.samples.map f.reading) := by
    rw [List.filter_map, families, List.filter_filter, List.filter_filter]
    exact congrArg _ (List.filter_congr fun f _ => Bool.and_comm _ _)
  rw [samplesOf, page_exposition, shown, List.flatMap_map]
  exact flatMap_shown (fun f none => by rw [none]; rfl) _

/-- The samples of a chain in a family. -/
theorem ofChain_exposition {family : String} {f : Family} (chain : ChainId)
    (only : m.allFamilies.filter (·.name == family) = [f]) :
    ofChain family chain m.exposition =
      (carried "chain_id" (toString chain) f).map f.reading := by
  rw [ofChain, samplesOf_exposition, only, List.flatMap_singleton, List.filter_map]
  rfl

/-- The lines of a family that carry a label. -/
def linesUnder (label value : String) (f : Family) : List (List Char) :=
  (carried label value f).map fun s => (f.line s).toList

/-- The lines that carry a label, family by family. -/
theorem linesAbout_eq (label value : String) (m : Metrics) :
    linesAbout label value m.exposition = m.allFamilies.flatMap (linesUnder label value) := by
  have empty (f : Family) (none : f.samples = []) : linesUnder label value f = [] := by
    rw [linesUnder, carried, none]
    rfl
  rw [linesAbout_exposition]
  exact flatMap_shown empty m.allFamilies

section Views

variable {n : Metrics} {name help kind label value : String}

theorem linesUnder_perLabel {a b : Labelled Nat} (sorted : a.Sorted ∧ b.Sorted)
    (same : a.get? value = b.get? value) :
    linesUnder label value (perLabel name help kind label a) =
      linesUnder label value (perLabel name help kind label b) := by
  rw [linesUnder, linesUnder, carried_perLabel sorted.1, carried_perLabel sorted.2, same]
  rfl

theorem linesUnder_histograms {a b : Labelled Histogram} (sorted : a.Sorted ∧ b.Sorted)
    (same : a.get? value = b.get? value) :
    linesUnder label value
        ⟨name, help, kind, a.flatMap fun v => histogramSamples label v.1 v.2⟩ =
      linesUnder label value
        ⟨name, help, kind, b.flatMap fun v => histogramSamples label v.1 v.2⟩ := by
  rw [linesUnder, linesUnder, carried_histograms sorted.1, carried_histograms sorted.2, same]
  rfl

theorem linesUnder_other {other : String} {values : Labelled Nat} (differ : label ≠ other) :
    linesUnder label value (perLabel name help kind other values) = [] := by
  rw [linesUnder, carried_other differ]
  rfl

theorem linesUnder_plain {text : String} :
    linesUnder label value (plain name help kind text) = [] :=
  rfl

/-- The lines about a chain depend on what stands under its label alone. -/
theorem linesAbout_view (mine : m.Ordered) (yours : n.Ordered)
    (same : m.view value = n.view value) :
    linesAbout "chain_id" value m.exposition = linesAbout "chain_id" value n.exposition := by
  have confirmed := congrArg View.confirmed same
  have unconfirmed := congrArg View.unconfirmed same
  have pollErrors := congrArg View.pollErrors same
  have latency := congrArg View.latency same
  have connected := congrArg View.connected same
  rw [linesAbout_eq, linesAbout_eq]
  simp only [allFamilies, List.flatMap_cons, List.flatMap_nil]
  rw [linesUnder_perLabel ⟨mine.connected, yours.connected⟩ connected,
    linesUnder_histograms ⟨mine.latency, yours.latency⟩ latency,
    linesUnder_perLabel ⟨mine.pollErrors, yours.pollErrors⟩ pollErrors,
    linesUnder_perLabel ⟨mine.confirmed, yours.confirmed⟩ confirmed,
    linesUnder_perLabel ⟨mine.unconfirmed, yours.unconfirmed⟩ unconfirmed]
  simp only [linesUnder_plain, linesUnder_other (show "chain_id" ≠ "source" by decide),
    linesUnder_other (show "chain_id" ≠ "event" by decide)]

end Views

/-- Samples in the order of their labels. -/
def InOrder (samples : List Sample) : Prop :=
  samples.Pairwise fun a b => firstLabel a.labels ≤ firstLabel b.labels

theorem inOrder_perLabel {name help kind label : String} {values : Labelled Nat}
    (sorted : values.Sorted) : InOrder (perLabel name help kind label values).samples :=
  List.pairwise_map.mpr (sorted.imp fun less => String.not_lt.mp (String.lt_asymm less))

theorem inOrder_histograms {label : String} {values : Labelled Histogram} (sorted : values.Sorted) :
    InOrder (values.flatMap fun v => histogramSamples label v.1 v.2) := by
  have first {v : String × Histogram} {s : Sample} (mem : s ∈ histogramSamples label v.1 v.2) :
      firstLabel s.labels = v.1 := by
    obtain ⟨rest, labels⟩ := labels_histogram mem
    rw [labels]
    rfl
  refine List.pairwise_flatMap.mpr ⟨fun v _ => ?_, sorted.imp fun less a mine b yours => ?_⟩
  · refine List.pairwise_iff_forall_sublist.mpr fun {a b} sub => ?_
    have mine := sub.subset List.mem_cons_self
    have yours := sub.subset (List.mem_cons_of_mem a List.mem_cons_self)
    have same := (first mine).trans (first yours).symm
    exact same ▸ String.le_refl (firstLabel a.labels)
  · rw [first mine, first yours]
    exact String.not_lt.mp (String.lt_asymm less)

/-- The samples of a family are in the order of their labels. -/
theorem inOrder_families (ordered : m.Ordered) : ∀ f ∈ m.families, InOrder f.samples := by
  suffices all : ∀ f ∈ m.allFamilies, InOrder f.samples from
    fun f mem => all f (List.mem_filter.mp mem).1
  have single {name help kind value : String} : InOrder (plain name help kind value).samples :=
    List.pairwise_singleton _ _
  simp only [allFamilies, List.forall_mem_cons, List.not_mem_nil, false_implies, implies_true,
    and_true]
  exact ⟨inOrder_perLabel ordered.connected, inOrder_histograms ordered.latency,
    inOrder_perLabel ordered.pollErrors, single, single, inOrder_perLabel ordered.allocated, single,
    inOrder_perLabel ordered.queueEvents, single, inOrder_perLabel ordered.confirmed,
    inOrder_perLabel ordered.unconfirmed⟩

end Metrics

end TxRelay
