import TxRelay.Bytes.Hex

/-!
# Spellings of an Account

An account has many spellings: each of its digits that is a letter can be of either
case, and `0x` may stand before them or not. They are all read as the same account,
so a table of accounts does not depend on how its callers spell.

Which digits are meant is said by the lower-case text of the bytes, which is also
how accounts are written in answers.

## Main definitions

* `Hex.Spells`: A text spells bytes.

## Theorems

* `Hex.digit?_of_toLower`: A digit is read in either case.
* `Hex.readExactly_spelled`: Bytes are read from any spelling of them.
* `Hex.readAddress_of_spells`: So is an account.
-/

namespace TxRelay

-- Bytes that have the length already are neither cut nor filled.
theorem FixedBytes.ofListPadded_toList {n : Nat} (b : FixedBytes n) :
    ofListPadded n b.toList = b := by
  obtain ⟨bytes, rfl⟩ := b
  simp [ofListPadded]

namespace Hex

/-- A text spells bytes: it has their digits, each in either case, after at most one
    `0x`. -/
def Spells (text : String) (bytes : Bytes) : Prop :=
  ∃ ds : List Char, ds.map Char.toLower = digits bytes ∧
    (text.toList = ds ∨ text.toList = '0' :: 'x' :: ds)

section Digits

-- What holds of all bytes can be checked.
theorem byte_induction {P : UInt8 → Prop} (all : ∀ n : Fin 256, P (UInt8.ofNat n)) (b : UInt8) :
    P b := by
  have known := all ⟨b.toNat, b.toNat_lt⟩
  rwa [UInt8.ofNat_toNat] at known

-- A byte is its two digits, the high one first.
theorem halves (b : UInt8) :
    b >>> 4 < 16 ∧ b &&& 15 < 16 ∧ (b >>> 4) <<< 4 ||| (b &&& 15) = b := by
  refine byte_induction (P := fun b => b >>> 4 < 16 ∧ b &&& 15 < 16 ∧
    (b >>> 4) <<< 4 ||| (b &&& 15) = b) ?_ b
  decide +kernel

-- Digits are ASCII in either case.
theorem toNat_lt_of_toLower {c d : Char} (lower : c.toLower = d) (ascii : d.toNat < 128) :
    c.toNat < 128 := by
  unfold Char.toLower at lower
  split at lower
  · rename_i upper
    have bound : c.toNat ≤ 90 := upper.2
    omega
  · rwa [lower]

/-- A digit is read in either case, and is no blank. -/
theorem digit?_of_toLower {c : Char} {v : UInt8} (small : v < 16)
    (lower : c.toLower = digitChar v) :
    c.toNat < 128 ∧ isBlank c.toNat.toUInt8 = false ∧ digit? c.toNat.toUInt8 = some v := by
  have ascii : c.toNat < 128 := by
    refine toNat_lt_of_toLower lower ?_
    refine byte_induction (P := fun v => v < 16 → (digitChar v).toNat < 128) ?_ v small
    decide +kernel
  refine ⟨ascii, ?_⟩
  -- There are 128 characters and 16 digits left.
  have table : ∀ n : Fin 128, ∀ k : Fin 16,
      (Char.ofNat n).toLower = digitChar (UInt8.ofNat k) →
        isBlank n.val.toUInt8 = false ∧ digit? n.val.toUInt8 = some (UInt8.ofNat k) := by
    decide +kernel
  have same := table ⟨c.toNat, ascii⟩ ⟨v.toNat, small⟩
  simp only [Char.ofNat_toNat, UInt8.ofNat_toNat] at same
  exact same lower

end Digits

section Reading

variable {c d : Char} {b : UInt8} {p q : Nat} {rest : List (Char × Nat)}

-- A byte is read from its two digits.
theorem nextByte_spelled (high : c.toLower = digitChar (b >>> 4))
    (low : d.toLower = digitChar (b &&& 15)) :
    nextByte none ((c, p) :: (d, q) :: rest) = .ok (some (b, rest)) := by
  obtain ⟨small, little, joined⟩ := halves b
  obtain ⟨ascii, blank, read⟩ := digit?_of_toLower small high
  obtain ⟨ascii', blank', read'⟩ := digit?_of_toLower little low
  simp [nextByte, ascii, blank, read, ascii', blank', read', joined]

/-- Bytes are read from any spelling of them. -/
theorem readExactly_spelled (bytes : Bytes) (ds : List Char) (start : Nat)
    (spelled : ds.map Char.toLower = digits bytes) :
    readExactly bytes.length (positions start ds) = .ok bytes := by
  induction bytes generalizing ds start with
  | nil =>
    obtain rfl := List.map_eq_nil_iff.mp spelled
    rfl
  | cons b more ih =>
    obtain ⟨c, tail, rfl, high, spelled⟩ := List.map_eq_cons_iff.mp spelled
    obtain ⟨d, ds, rfl, low, spelled⟩ := List.map_eq_cons_iff.mp spelled
    simp only [List.length_cons, positions, readExactly]
    rw [nextByte_spelled high low]
    dsimp only
    rw [ih ds _ spelled]
    rfl

-- The text of bytes does not begin like `0x`.
theorem not_prefixed {bytes : Bytes} {rest : List Char}
    (spelled : ('0' :: 'x' :: rest).map Char.toLower = digits bytes) : False := by
  cases bytes with
  | nil => exact absurd spelled (by simp [digits])
  | cons b more =>
    have low : 'x'.toLower = digitChar (b &&& 15) :=
      (List.cons.inj (List.cons.inj spelled).2).1
    have read := (digit?_of_toLower (halves b).2.1 low).2.2
    have none : digit? 'x'.toNat.toUInt8 = none := by decide
    exact absurd (none.symm.trans read) (by simp)

/-- An account is read from any spelling of it. -/
theorem readAddress_of_spells {text : String} {a : Address} (spells : Spells text a.toList) :
    readAddress text = .ok a := by
  obtain ⟨ds, spelled, same⟩ := spells
  have read := readExactly_spelled a.toList ds 0 spelled
  rw [a.length_toList] at read
  have whole : (readExactly 20 (positions 0 ds)).map (FixedBytes.ofListPadded 20) = .ok a := by
    rw [read]
    exact congrArg Except.ok (FixedBytes.ofListPadded_toList a)
  unfold readAddress
  obtain same | same := same
  · rw [same]
    split
    · exact absurd spelled not_prefixed
    · exact whole
  · rw [same]
    exact whole

end Reading

end Hex

end TxRelay
