import TxRelay.Proofs.Bytes.Spelling
import Mathlib.Data.List.Induction

/-!
# What Digits Denote

A text of hexadecimal digits denotes bytes: two digits are one byte, and the first
of them counts sixteen times. The strict reader works on the bytes of a text and not
on its characters, so what it does to a character that is no digit depends on how the
character is encoded. An ASCII character is one byte, and all bytes of any other are
beyond ASCII, where no digit is. Hence a text is read exactly if its characters are
digits in pairs, and then as the bytes that they denote.

What the reader finds wrong with any other text is the number of its bytes, if it is
odd, and else the first byte that is no digit.

## Main definitions

* `Hex.Denotes`: Digits denote bytes.
* `Hex.behind0x`: A text without one `0x` at its front.
* `Hex.octets`: The bytes of characters.
* `Hex.Mistake`: What is wrong with the bytes of a text.

## Theorems

* `Hex.decode_octets`: Digits are read as the bytes that they denote, and nothing else
  is read.
* `Hex.decode_eq_error`: What is reported of any other text.
* `Hex.denotes_iff_lower`: Digits denote the bytes whose lower-case text they are.
* `Hex.spells_iff`: So a text spells what its digits denote.
* `Hex.exists_denotes`: What denotes bytes.
-/

namespace TxRelay

namespace Hex

/-- The digits, of either case. -/
def numerals : List Char := "0123456789abcdefABCDEF".toList

/-- What a digit counts. -/
def worth (c : Char) : Nat := "0123456789abcdef".toList.idxOf c.toLower

/-- Digits denote bytes: two of them are one byte, and the first counts sixteen
    times. -/
inductive Denotes : List Char → Bytes → Prop where
  /-- No digits denote no bytes. -/
  | nil : Denotes [] []
  /-- Two digits denote a byte. -/
  | byte {high low : Char} {b : UInt8} {ds : List Char} {bytes : Bytes}
      (first : high ∈ numerals) (second : low ∈ numerals)
      (sum : b.toNat = 16 * worth high + worth low) (rest : Denotes ds bytes) :
      Denotes (high :: low :: ds) (b :: bytes)

/-- A text without one `0x` at its front. -/
def behind0x : List Char → List Char
  | '0' :: 'x' :: rest => rest
  | all => all

/-- The bytes of characters. -/
def octets (text : List Char) : Bytes :=
  text.flatMap String.utf8EncodeChar

/-- What is wrong with the bytes of a text that should be digits in pairs. -/
inductive Mistake (bytes : Bytes) : Fault → Prop where
  /-- Their number is odd. -/
  | odd (odd : bytes.length % 2 = 1) : Mistake bytes .oddLength
  /-- There is one that is no digit, the first of them. -/
  | invalid {front rest : Bytes} {b : UInt8} (even : bytes.length % 2 = 0)
      (split : bytes = front ++ b :: rest) (digits : ∀ x ∈ front, (digit? x).isSome)
      (none : digit? b = none) : Mistake bytes (.invalidByte b front.length)

section Octets

-- A loop that is read from its end.
theorem toList_loop (bytes : ByteArray) (i : Nat) (done : Bytes) :
    ByteArray.toList.loop bytes i done = done.reverse ++ bytes.data.toList.drop i := by
  fun_induction ByteArray.toList.loop bytes i done with
  | case1 i done inside ih =>
    have bound : i < bytes.data.toList.length := by simpa using inside
    rw [ih, List.drop_eq_getElem_cons bound, List.reverse_cons, List.append_assoc]
    simp only [ByteArray.get!, Array.getElem_toList, List.singleton_append]
    rw [getElem!_pos bytes.data i (by simpa using bound)]
  | case2 i done outside =>
    rw [List.drop_eq_nil_of_le (by simpa using outside), List.append_nil]

/-- The bytes of a text are those of its characters. -/
theorem toUTF8_toList (text : String) : text.toUTF8.toList = octets text.toList := by
  rw [String.toUTF8_eq_toByteArray, ← String.utf8Encode_toList, ByteArray.toList, toList_loop]
  exact List.toList_data_toByteArray

@[simp]
theorem octets_nil : octets [] = [] :=
  rfl

theorem octets_cons (c : Char) (text : List Char) :
    octets (c :: text) = String.utf8EncodeChar c ++ octets text :=
  List.flatMap_cons

/-- An ASCII character is one byte. -/
theorem octets_ascii {c : Char} (ascii : c.toNat < 128) (text : List Char) :
    octets (c :: text) = c.toNat.toUInt8 :: octets text := by
  rw [octets_cons, String.utf8EncodeChar, if_pos (show c.val.toNat ≤ 127 from Nat.le_of_lt_succ ascii)]
  rfl

/-- The first byte of any other is beyond ASCII. -/
theorem octets_beyond {c : Char} (beyond : 128 ≤ c.toNat) (text : List Char) :
    ∃ b more, octets (c :: text) = b :: more ∧ 128 ≤ b.toNat := by
  have outside : ¬c.val.toNat ≤ 127 := Nat.not_le.mpr beyond
  rw [octets_cons, String.utf8EncodeChar]
  simp only [if_neg outside]
  split
  · exact ⟨_, _, rfl, by rw [UInt8.toNat_ofNat']; omega⟩
  · split
    · exact ⟨_, _, rfl, by rw [UInt8.toNat_ofNat']; omega⟩
    · exact ⟨_, _, rfl, by rw [UInt8.toNat_ofNat']; omega⟩

end Octets

section Digits

/-- The digits among the ASCII characters, and what they are read as. -/
theorem digit?_ascii {c : Char} (ascii : c.toNat < 128) :
    digit? c.toNat.toUInt8 = if c ∈ numerals then some (worth c).toUInt8 else none := by
  have table : ∀ n : Fin 128, digit? n.val.toUInt8 =
      if Char.ofNat n ∈ numerals then some (worth (Char.ofNat n)).toUInt8 else none := by
    decide +kernel
  have here := table ⟨c.toNat, ascii⟩
  rwa [Char.ofNat_toNat] at here

/-- No digit is beyond ASCII. -/
theorem digit?_beyond {b : UInt8} (beyond : 128 ≤ b.toNat) : digit? b = none := by
  refine byte_induction (P := fun b => 128 ≤ b.toNat → digit? b = none) ?_ b beyond
  decide +kernel

theorem toNat_of_mem_numerals {c : Char} (digit : c ∈ numerals) : c.toNat < 128 := by
  have all : numerals.all fun c => c.toNat < 128 := by decide
  exact of_decide_eq_true (List.all_eq_true.mp all c digit)

theorem worth_lt {c : Char} (digit : c ∈ numerals) : worth c < 16 := by
  have all : numerals.all fun c => worth c < 16 := by decide
  exact of_decide_eq_true (List.all_eq_true.mp all c digit)

-- The lower case of a digit is the digit for what it counts.
theorem toLower_numeral {c : Char} (digit : c ∈ numerals) :
    c.toLower = digitChar (worth c).toUInt8 := by
  have all : numerals.all fun c => c.toLower = digitChar (worth c).toUInt8 := by decide
  exact of_decide_eq_true (List.all_eq_true.mp all c digit)

-- A character is a digit that counts so much if its lower case is the digit for it.
theorem numeral_of_toLower {c : Char} {v : UInt8} (small : v < 16)
    (lower : c.toLower = digitChar v) : c ∈ numerals ∧ (worth c).toUInt8 = v := by
  obtain ⟨ascii, _, read⟩ := digit?_of_toLower small lower
  rw [digit?_ascii ascii] at read
  split at read
  · rename_i digit
    exact ⟨digit, Option.some.inj read⟩
  · exact absurd read (by simp)

-- A byte that is put together from two digits.
theorem joined_eq {b : UInt8} {high low : Char} (first : high ∈ numerals)
    (second : low ∈ numerals) :
    ((worth high).toUInt8 <<< 4 ||| (worth low).toUInt8) = b ↔
      b.toNat = 16 * worth high + worth low := by
  have table : ∀ x y : Fin 16,
      (x.val.toUInt8 <<< 4 ||| y.val.toUInt8).toNat = 16 * x.val + y.val := by
    decide +kernel
  have sum := table ⟨worth high, worth_lt first⟩ ⟨worth low, worth_lt second⟩
  simp only at sum
  rw [← UInt8.toNat_inj, sum]
  exact eq_comm

/-- A character that is no digit stops the reader, whether at its first place or at its
    second. -/
theorem decodePairs_other {c : Char} (other : c ∉ numerals) (text : List Char) (p : Nat) :
    (∀ raw, decodePairs p (octets (c :: text)) ≠ .ok raw) ∧
      ∀ x raw, decodePairs p (x :: octets (c :: text)) ≠ .ok raw := by
  obtain ⟨b, more, shape, none⟩ : ∃ b more, octets (c :: text) = b :: more ∧ digit? b = none := by
    by_cases ascii : c.toNat < 128
    · exact ⟨_, _, octets_ascii ascii text, by rw [digit?_ascii ascii, if_neg other]⟩
    · obtain ⟨b, more, shape, beyond⟩ := octets_beyond (Nat.not_lt.mp ascii) text
      exact ⟨b, more, shape, digit?_beyond beyond⟩
  rw [shape]
  constructor
  · intro raw
    cases more with
    | nil => simp [decodePairs]
    | cons y more => simp [decodePairs, none]
  · intro x raw
    cases read : digit? x <;> simp [decodePairs, read, none]

/-- Two digits are read as a byte. -/
theorem decodePairs_byte {high low : Char} (first : high ∈ numerals) (second : low ∈ numerals)
    (text : List Char) (p : Nat) :
    decodePairs p (octets (high :: low :: text)) =
      (decodePairs (p + 2) (octets text)).map
        (((worth high).toUInt8 <<< 4 ||| (worth low).toUInt8) :: ·) := by
  have ascii := toNat_of_mem_numerals first
  have ascii' := toNat_of_mem_numerals second
  rw [octets_ascii ascii, octets_ascii ascii', decodePairs, digit?_ascii ascii, if_pos first,
    digit?_ascii ascii', if_pos second]

/-- Digits are read in pairs as the bytes that they denote, and nothing else is read. -/
theorem decodePairs_octets (p : Nat) (ds : List Char) (raw : Bytes) :
    decodePairs p (octets ds) = .ok raw ↔ Denotes ds raw := by
  induction ds using List.twoStepInduction generalizing p raw with
  | nil =>
    constructor
    · intro read
      obtain rfl : [] = raw := Except.ok.inj read
      exact .nil
    · rintro ⟨⟩
      rfl
  | singleton c =>
    have unread : decodePairs p (octets [c]) ≠ .ok raw := by
      by_cases digit : c ∈ numerals
      · rw [octets_ascii (toNat_of_mem_numerals digit)]
        simp [decodePairs]
      · exact (decodePairs_other digit [] p).1 raw
    exact iff_of_false unread (by rintro ⟨⟩)
  | cons_cons high low ds ih _ =>
    by_cases first : high ∈ numerals
    · by_cases second : low ∈ numerals
      · rw [decodePairs_byte first second]
        constructor
        · intro read
          cases more : decodePairs (p + 2) (octets ds) with
          | error f => simp [more, Except.map] at read
          | ok bytes =>
            rw [more] at read
            obtain rfl := Except.ok.inj read
            exact .byte first second ((joined_eq first second).mp rfl) ((ih _ _).mp more)
        · rintro ⟨⟩
          rename_i b bytes _ _ sum rest
          rw [(ih (p + 2) bytes).mpr rest, (joined_eq first second).mpr sum]
          rfl
      · refine iff_of_false ?_ (by rintro ⟨⟩; contradiction)
        rw [octets_ascii (toNat_of_mem_numerals first)]
        exact (decodePairs_other second ds p).2 _ raw
    · exact iff_of_false ((decodePairs_other first _ p).1 raw) (by rintro ⟨⟩; contradiction)

end Digits

section Denotation

variable {ds : List Char} {raw : Bytes}

-- No digits are no bytes, and no others are.
theorem Denotes.eq_nil_iff (denotes : Denotes ds raw) : raw = [] ↔ ds = [] := by
  cases denotes with
  | nil => exact iff_of_true rfl rfl
  | byte => exact iff_of_false (List.cons_ne_nil _ _) (List.cons_ne_nil _ _)

-- Every byte takes two bytes of text.
theorem Denotes.length_octets (denotes : Denotes ds raw) :
    (octets ds).length = 2 * raw.length := by
  induction denotes with
  | nil => rfl
  | byte first second sum rest ih =>
    rw [octets_ascii (toNat_of_mem_numerals first), octets_ascii (toNat_of_mem_numerals second),
      List.length_cons, List.length_cons, List.length_cons, ih]
    omega

/-- Digits are read as the bytes that they denote, and nothing else is read. -/
theorem decode_octets : decode (octets ds) = .ok raw ↔ Denotes ds raw := by
  unfold decode
  by_cases even : (octets ds).length % 2 = 0
  · rw [if_pos even]
    exact decodePairs_octets 0 ds raw
  · rw [if_neg even]
    refine iff_of_false (by simp) fun denotes => even ?_
    rw [denotes.length_octets]
    omega

/-- Digits denote the bytes whose lower-case text they are. -/
theorem denotes_iff_lower : Denotes ds raw ↔ ds.map Char.toLower = digits raw := by
  constructor
  · intro denotes
    induction denotes with
    | nil => rfl
    | @byte high low b ds bytes first second sum rest ih =>
      have table : ∀ x y : Fin 16,
          (x.val.toUInt8 <<< 4 ||| y.val.toUInt8) >>> 4 = x.val.toUInt8 ∧
            (x.val.toUInt8 <<< 4 ||| y.val.toUInt8) &&& 15 = y.val.toUInt8 := by
        decide +kernel
      have apart := table ⟨worth high, worth_lt first⟩ ⟨worth low, worth_lt second⟩
      simp only [(joined_eq first second).mpr sum] at apart
      rw [List.map_cons, List.map_cons, ih, digits, apart.1, apart.2, toLower_numeral first,
        toLower_numeral second]
  · intro lower
    induction raw generalizing ds with
    | nil =>
      obtain rfl := List.map_eq_nil_iff.mp lower
      exact .nil
    | cons b raw ih =>
      obtain ⟨high, tail, rfl, upper, lower⟩ := List.map_eq_cons_iff.mp lower
      obtain ⟨low, ds, rfl, under, lower⟩ := List.map_eq_cons_iff.mp lower
      obtain ⟨small, little, joined⟩ := halves b
      obtain ⟨first, high_eq⟩ := numeral_of_toLower small upper
      obtain ⟨second, low_eq⟩ := numeral_of_toLower little under
      rw [← high_eq, ← low_eq] at joined
      exact .byte first second ((joined_eq first second).mp joined) (ih lower)

/-- A text spells the bytes that its digits denote, behind `0x` or not. -/
theorem spells_iff {text : String} : Spells text raw ↔ Denotes (behind0x text.toList) raw := by
  constructor
  · rintro ⟨ds, lower, plain | prefixed⟩
    · have kept : behind0x ds = ds :=
        behind0x.eq_2 _ fun rest same => not_prefixed (same ▸ lower)
      rw [plain, kept]
      exact denotes_iff_lower.mpr lower
    · rw [prefixed]
      exact denotes_iff_lower.mpr lower
  · intro denotes
    refine ⟨_, denotes_iff_lower.mp denotes, ?_⟩
    unfold behind0x
    split
    · rename_i rest shape
      exact Or.inr shape
    · exact Or.inl rfl

/-- What denotes bytes: an even number of digits. -/
theorem exists_denotes :
    (∃ raw, Denotes ds raw) ↔ ds.length % 2 = 0 ∧ ∀ c ∈ ds, c ∈ numerals := by
  induction ds using List.twoStepInduction with
  | nil => exact iff_of_true ⟨[], .nil⟩ ⟨rfl, by simp⟩
  | singleton c => exact iff_of_false (by rintro ⟨_, ⟨⟩⟩) (by simp)
  | cons_cons high low ds ih _ =>
    constructor
    · rintro ⟨_, ⟨⟩⟩
      rename_i b bytes first second sum rest
      obtain ⟨even, digits⟩ := ih.mp ⟨bytes, rest⟩
      refine ⟨by simp only [List.length_cons]; omega, ?_⟩
      exact List.forall_mem_cons.mpr ⟨first, List.forall_mem_cons.mpr ⟨second, digits⟩⟩
    · rintro ⟨even, all⟩
      obtain ⟨first, all⟩ := List.forall_mem_cons.mp all
      obtain ⟨second, all⟩ := List.forall_mem_cons.mp all
      obtain ⟨bytes, rest⟩ := ih.mpr ⟨by simp only [List.length_cons] at even; omega, all⟩
      exact ⟨_, .byte first second ((joined_eq first second).mp rfl) rest⟩

end Denotation

section Mistakes

variable {bytes : Bytes} {f : Fault}

/-- The reader of pairs stops at the first byte that is no digit. -/
theorem decodePairs_invalid (p : Nat) {front rest : Bytes} {b : UInt8}
    (even : (front ++ b :: rest).length % 2 = 0) (digits : ∀ x ∈ front, (digit? x).isSome)
    (other : digit? b = none) :
    decodePairs p (front ++ b :: rest) = .error (.invalidByte b (p + front.length)) := by
  induction front using List.twoStepInduction generalizing p with
  | nil =>
    cases rest with
    | nil => exact absurd even (by simp)
    | cons y rest => simp [decodePairs, other]
  | singleton x =>
    obtain ⟨h, read⟩ := Option.isSome_iff_exists.mp (digits x (by simp))
    simp [decodePairs, read, other]
  | cons_cons x y front ih _ =>
    obtain ⟨h, read⟩ := Option.isSome_iff_exists.mp (digits x (by simp))
    obtain ⟨l, read'⟩ := Option.isSome_iff_exists.mp (digits y (by simp))
    have more := ih (p + 2) (by simp only [List.cons_append, List.length_cons] at even; omega)
      fun v mem => digits v (List.mem_cons_of_mem _ (List.mem_cons_of_mem _ mem))
    have place : p + 2 + front.length = p + (x :: y :: front).length := by
      rw [List.length_cons, List.length_cons]
      omega
    rw [List.cons_append, List.cons_append, decodePairs, read, read']
    simp only [more, place]
    rfl

/-- Nothing else stops it. -/
theorem decodePairs_stopped (p : Nat) (even : bytes.length % 2 = 0)
    (stopped : decodePairs p bytes = .error f) :
    ∃ front b rest, bytes = front ++ b :: rest ∧ (∀ x ∈ front, (digit? x).isSome) ∧
      digit? b = none ∧ f = .invalidByte b (p + front.length) := by
  induction bytes using List.twoStepInduction generalizing p with
  | nil => exact absurd stopped (by simp [decodePairs])
  | singleton x => exact absurd even (by simp)
  | cons_cons x y bytes ih _ =>
    cases first : digit? x with
    | none =>
      simp only [decodePairs, first] at stopped
      exact ⟨[], x, y :: bytes, rfl, by simp, first, (Except.error.inj stopped).symm⟩
    | some h =>
      cases second : digit? y with
      | none =>
        simp only [decodePairs, first, second] at stopped
        exact ⟨[x], y, bytes, rfl, by simp [first], second, (Except.error.inj stopped).symm⟩
      | some l =>
        simp only [decodePairs, first, second] at stopped
        cases more : decodePairs (p + 2) bytes with
        | ok raw => simp [more, Except.map] at stopped
        | error g =>
          rw [more] at stopped
          obtain rfl := Except.error.inj stopped
          obtain ⟨front, b, rest, rfl, digits, other, rfl⟩ :=
            ih (p + 2) (by simp only [List.length_cons] at even; omega) more
          refine ⟨x :: y :: front, b, rest, rfl, by simpa [first, second] using digits, other, ?_⟩
          rw [List.length_cons, List.length_cons]
          congr 1
          omega

/-- What is reported of a text that cannot be read. -/
theorem decode_eq_error : decode bytes = .error f ↔ Mistake bytes f := by
  unfold decode
  by_cases even : bytes.length % 2 = 0
  · rw [if_pos even]
    constructor
    · intro stopped
      obtain ⟨front, b, rest, split, digits, other, rfl⟩ := decodePairs_stopped 0 even stopped
      rw [Nat.zero_add]
      exact .invalid even split digits other
    · rintro (odd | ⟨_, rfl, digits, other⟩)
      · omega
      · rw [decodePairs_invalid 0 even digits other, Nat.zero_add]
  · rw [if_neg even]
    constructor
    · intro stopped
      obtain rfl := Except.error.inj stopped
      exact .odd (by omega)
    · rintro (odd | ⟨even', _, _, _⟩)
      · rfl
      · exact absurd even' even

end Mistakes

-- A character that is not this one of ASCII does not begin with its byte.
theorem octets_head_ne {c k : Char} (ascii : k.toNat < 128) (differ : c ≠ k)
    (text : List Char) : ∃ b more, octets (c :: text) = b :: more ∧ b ≠ k.toNat.toUInt8 := by
  have small : k.toNat.toUInt8.toNat = k.toNat := by
    rw [Nat.toUInt8_eq, UInt8.toNat_ofNat']
    exact Nat.mod_eq_of_lt (by omega)
  by_cases plain : c.toNat < 128
  · refine ⟨_, _, octets_ascii plain text, fun same => differ ?_⟩
    have numbers := congrArg UInt8.toNat same
    rw [small, Nat.toUInt8_eq, UInt8.toNat_ofNat', Nat.mod_eq_of_lt (by omega)] at numbers
    exact Char.toNat_inj.mp numbers
  · obtain ⟨b, more, shape, beyond⟩ := octets_beyond (Nat.not_lt.mp plain) text
    refine ⟨b, more, shape, fun same => ?_⟩
    rw [same, small] at beyond
    omega

/-- A `0x` is skipped in the bytes as it is in the characters. -/
theorem strip0x_octets (text : List Char) : strip0x (octets text) = octets (behind0x text) := by
  rcases text with _ | ⟨c, text⟩
  · rfl
  by_cases zero : c = '0'
  · subst zero
    have front := octets_ascii (c := '0') (by decide)
    rcases text with _ | ⟨d, rest⟩
    · rfl
    by_cases ex : d = 'x'
    · subst ex
      rw [front, octets_ascii (c := 'x') (by decide)]
      rfl
    · obtain ⟨b, more, shape, differ⟩ := octets_head_ne (k := 'x') (by decide) ex rest
      rw [behind0x.eq_2 _ fun _ same => ex (List.cons.inj (List.cons.inj same).2).1, front, shape]
      exact strip0x.eq_2 _ fun _ same => differ (List.cons.inj (List.cons.inj same).2).1
  · obtain ⟨b, more, shape, differ⟩ := octets_head_ne (k := '0') (by decide) zero text
    rw [behind0x.eq_2 _ fun _ same => zero (List.cons.inj same).1, shape]
    exact strip0x.eq_2 _ fun _ same => differ (List.cons.inj same).1

end Hex

end TxRelay
