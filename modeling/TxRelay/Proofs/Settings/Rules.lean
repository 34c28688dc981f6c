import Mathlib.Data.List.DropRight
import TxRelay.Settings.Decode

/-!
# What Settings Are Accepted

The rules are checked one after another, and the chains that are used are looked
at in the order of the table, with the numbers of those already seen. What comes
out is that all rules hold, and that does not mention an order any more: the
numbers and times are at least one, some chain is used, and the chains that are
used have endpoints, none of them blank, and numbers of their own.

Chains that are not used do not matter, nor does the order of those that are.
It only matters for the choice among several faults.

## Main definitions

* `trimmed`: A text without the white space around it.
* `ChainSettings.Usable`: What the rules want of a chain that is used.
* `Settings.Sound`: What they want of settings.

## Theorems

* `isBlankText_iff`: A text is blank if nothing is left of it.
* `Settings.validateChains_eq_ok`: The scan with its growing list of numbers.
* `Settings.validate_eq_ok`: The rules accept what is sound.
* `Settings.ofText_eq_ok`: A text is accepted if it can be read and is sound.
* `Settings.validate_of_perm`: The order of the chains makes no difference.
-/

namespace TxRelay

/-- A text without the white space around it. -/
def trimmed (s : String) : String :=
  String.ofList ((s.toList.dropWhile isWhite).rdropWhile isWhite)

/-- A text is blank if nothing is left of it. -/
theorem isBlankText_iff (s : String) : isBlankText s = true ↔ trimmed s = "" := by
  have nothing (l : List Char) : String.ofList l = "" ↔ l = [] :=
    ⟨fun same => String.ofList_injective same, fun same => same ▸ rfl⟩
  rw [isBlankText, trimmed, nothing, List.rdropWhile_eq_nil_iff, List.all_eq_true]
  constructor
  · exact fun all c mem => all c ((List.dropWhile_sublist isWhite).subset mem)
  · intro rest c mem
    -- What comes before the rest is white anyway.
    rw [← List.takeWhile_append_dropWhile (p := isWhite) (l := s.toList), List.mem_append] at mem
    rcases mem with before | after
    · exact List.mem_takeWhile_imp before
    · exact rest c after

/-- What the rules want of a chain that is used. -/
structure ChainSettings.Usable (c : ChainSettings) : Prop where
  /-- It has an endpoint. -/
  urls : c.urls ≠ []
  /-- None of them is blank. -/
  written : ∀ url ∈ c.urls, trimmed url ≠ ""

namespace Settings

/-- What the rules want of settings. -/
structure Sound (s : Settings) : Prop where
  /-- The queue has a place. -/
  capacity : 1 ≤ s.queue.capacity
  /-- Confirmations are waited for. -/
  confirmation : 1 ≤ s.queue.confirmationSeconds
  /-- Lookups are paced. -/
  poll : 1 ≤ s.queue.pollMillis
  /-- Attempts are waited for. -/
  patience : 1 ≤ s.sender.patienceSeconds
  /-- An attempt is made. -/
  attempts : 1 ≤ s.sender.attempts
  /-- A chain is used. -/
  used : s.enabledChains ≠ []
  /-- All chains that are used can be used. -/
  usable : ∀ e ∈ s.enabledChains, e.2.Usable
  /-- They have numbers of their own. -/
  distinct : (s.enabledChains.map fun e => e.2.chain).Nodup

-- A rule that is checked first holds, and the others are checked next.
theorem check_eq_ok {broken : Prop} [Decidable broken] {fault : SettingsFault}
    {others : Except SettingsFault Unit} :
    (if broken then .error fault else others) = .ok () ↔ ¬broken ∧ others = .ok () := by
  by_cases broke : broken
  · rw [if_pos broke]
    exact ⟨fun passed => absurd passed (by simp), fun holds => absurd broke holds.1⟩
  · rw [if_neg broke]
    exact ⟨fun passed => ⟨broke, passed⟩, fun holds => holds.2⟩

/-- The scan accepts usable chains with numbers of their own that were not seen
    before. -/
theorem validateChains_eq_ok {seen : List ChainId} {chains : List (String × ChainSettings)} :
    validateChains seen chains = .ok () ↔
      (∀ e ∈ chains, e.2.Usable ∧ e.2.chain ∉ seen) ∧
        (chains.map fun e => e.2.chain).Nodup := by
  induction chains generalizing seen with
  | nil => exact iff_of_true rfl ⟨fun _ mem => absurd mem List.not_mem_nil, List.Pairwise.nil⟩
  | cons entry rest ih =>
    obtain ⟨key, c⟩ := entry
    have usable : c.Usable ↔ ¬c.urls.isEmpty = true ∧ ¬c.urls.any isBlankText = true := by
      rw [List.isEmpty_iff, List.any_eq_true]
      simp only [isBlankText_iff, not_exists, not_and]
      exact ⟨fun u => ⟨u.urls, u.written⟩, fun both => ⟨both.1, both.2⟩⟩
    rw [validateChains, check_eq_ok, check_eq_ok, check_eq_ok, ih, List.forall_mem_cons,
      List.map_cons, List.nodup_cons, usable, List.contains_iff_mem]
    -- Whether a number was seen before or is seen here, it is not seen again.
    simp only [List.mem_cons, not_or, List.mem_map, not_exists, not_and]
    constructor
    · rintro ⟨some, written, unseen, others, distinct⟩
      exact ⟨⟨⟨⟨some, written⟩, unseen⟩, fun e mem => ⟨(others e mem).1, (others e mem).2.2⟩⟩,
        fun e mem => (others e mem).2.1, distinct⟩
    · rintro ⟨⟨⟨⟨some, written⟩, unseen⟩, others⟩, apart, distinct⟩
      exact ⟨some, written, unseen,
        fun e mem => ⟨(others e mem).1, apart e mem, (others e mem).2⟩, distinct⟩

/-- The rules accept what is sound. -/
theorem validate_eq_ok (s : Settings) : s.validate = .ok () ↔ Sound s := by
  have positive (n : Nat) : ¬n = 0 ↔ 1 ≤ n := Nat.one_le_iff_ne_zero.symm
  simp only [validate, check_eq_ok, validateChains_eq_ok, positive, List.isEmpty_iff,
    List.not_mem_nil, not_false_eq_true, and_true]
  constructor
  · rintro ⟨capacity, confirmation, poll, patience, attempts, used, usable, distinct⟩
    exact ⟨capacity, confirmation, poll, patience, attempts, used, usable, distinct⟩
  · exact fun s => ⟨s.capacity, s.confirmation, s.poll, s.patience, s.attempts, s.used, s.usable,
      s.distinct⟩

/-- A text is accepted if it can be read and is sound. -/
theorem ofText_eq_ok (environment : String → Option String) (source : String) (s : Settings) :
    ofText environment source = .ok s ↔
      parse (substitute environment source) = some s ∧ Sound s := by
  rw [← validate_eq_ok]
  unfold ofText
  cases read : parse (substitute environment source) with
  | none => simp only [reduceCtorEq, false_and]
  | some t =>
    rw [Option.some.injEq]
    constructor
    · intro accepted
      cases verdict : t.validate with
      | ok u =>
        simp only [verdict, Except.ok.injEq] at accepted
        exact ⟨accepted, accepted ▸ verdict⟩
      | error e => simp only [verdict, reduceCtorEq] at accepted
    · rintro ⟨rfl, verdict⟩
      simp only [verdict]

-- Chains that are not used are not looked at.
theorem validate_congr {s t : Settings} (queue : s.queue = t.queue) (sender : s.sender = t.sender)
    (chains : s.enabledChains = t.enabledChains) : s.validate = t.validate := by
  rw [validate, validate, queue, sender, chains]

/-- The order of the chains makes no difference to what is accepted. -/
theorem validate_of_perm {s t : Settings} (queue : s.queue = t.queue) (sender : s.sender = t.sender)
    (chains : s.enabledChains.Perm t.enabledChains) :
    s.validate = .ok () ↔ t.validate = .ok () := by
  rw [validate_eq_ok, validate_eq_ok]
  have one {s t : Settings} (queue : s.queue = t.queue) (sender : s.sender = t.sender)
      (chains : s.enabledChains.Perm t.enabledChains) (sound : Sound s) : Sound t :=
    { capacity := queue ▸ sound.capacity
      confirmation := queue ▸ sound.confirmation
      poll := queue ▸ sound.poll
      patience := sender ▸ sound.patience
      attempts := sender ▸ sound.attempts
      used := fun none => sound.used (List.perm_nil.mp (none ▸ chains))
      usable := fun e mem => sound.usable e (chains.mem_iff.mpr mem)
      distinct := (chains.map _).nodup_iff.mp sound.distinct }
  exact ⟨one queue sender chains, one queue.symm sender.symm chains.symm⟩

end Settings

end TxRelay
