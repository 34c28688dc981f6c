import TxRelay.Json.Token

/-!
# Written JSON

Texts and numbers are read as tokens just as they were written. A text is written in
ASCII: a character outside it stands as its code, one beyond sixteen bits as two codes
that are paired again. A number is written by its digits, which end where something
else begins.

Tokens are read with as many rounds as there are characters. A token takes one round,
whatever rounds are left, so the tokens of a text can be read off one after another.

## Main definitions

* `Json.piecesOf`: The code units that a character is written as.

## Theorems

* `Json.pieces_written`, `Json.pair_written`: A text in quotes is read back.
* `Json.token_quote`, `Json.token_digits`: Texts and numbers are tokens.
* `Json.tokensWithin_token`: A token is read in one round.
-/

namespace TxRelay

namespace Json

/-- The code units that a character is written as. -/
def piecesOf (c : Char) : List Piece :=
  if c.toNat < 65536 then [.char c]
  else [.high (55296 + (c.toNat - 65536) / 1024), .low (56320 + (c.toNat - 65536) % 1024)]

section Texts

-- The digits of a code are read as the code.
theorem code4_hex4 {n : Nat} (small : n < 65536) :
    ∃ a b c d, Value.hex4 n = [a, b, c, d] ∧ code4 a b c d = some n := by
  have table : ∀ v : Fin 16, hexDigit?
      (if v.val < 10 then Char.ofNat (48 + v.val) else Char.ofNat (87 + v.val)) = some v.val := by
    decide
  have digit (k : Nat) : hexDigit? (if n / Nat.pow 16 k % 16 < 10
      then Char.ofNat (48 + n / Nat.pow 16 k % 16)
      else Char.ofNat (87 + n / Nat.pow 16 k % 16)) = some (n / Nat.pow 16 k % 16) :=
    table ⟨n / Nat.pow 16 k % 16, Nat.mod_lt _ (by decide)⟩
  refine ⟨_, _, _, _, rfl, ?_⟩
  unfold code4
  rw [digit 3, digit 2, digit 1, digit 0]
  refine congrArg some ?_
  have powers : Nat.pow 16 3 = 4096 ∧ Nat.pow 16 2 = 256 ∧ Nat.pow 16 1 = 16 ∧ Nat.pow 16 0 = 1 := by
    decide
  rw [powers.1, powers.2.1, powers.2.2.1, powers.2.2.2]
  omega

-- A character is no surrogate code.
theorem ofCode_toNat (c : Char) : Piece.ofCode c.toNat = .char c := by
  have valid : c.toNat < 55296 ∨ 57343 < c.toNat ∧ c.toNat < 1114112 := c.valid
  unfold Piece.ofCode
  rw [if_neg (by simp; omega), if_neg (by simp; omega), Char.ofNat_toNat]

-- A code behind a backslash is read as its piece.
theorem pieces_code {n : Nat} (small : n < 65536) (text : List Char) :
    pieces ('\\' :: 'u' :: Value.hex4 n ++ text) =
      (pieces text).map fun p => (.ofCode n :: p.1, p.2) := by
  obtain ⟨a, b, c, d, shape, code⟩ := code4_hex4 small
  rw [shape]
  show pieces ('\\' :: 'u' :: a :: b :: c :: d :: text) = _
  rw [pieces, code]
  cases pieces text <;> rfl

-- So is a mark behind one.
theorem pieces_mark {c e : Char} (mark : simpleEscape? c = some e) (text : List Char) :
    pieces ('\\' :: c :: text) = (pieces text).map fun p => (.char e :: p.1, p.2) := by
  have other : c ≠ 'u' := by
    rintro rfl
    simp [simpleEscape?] at mark
  rw [pieces.eq_4 c text fun _ _ _ _ _ same _ => other same, mark]
  cases pieces text <;> rfl

-- A character that is no mark stands for itself.
theorem pieces_plain {c : Char} (shown : 32 ≤ c.toNat) (unquoted : c ≠ '"') (unmarked : c ≠ '\\')
    (text : List Char) : pieces (c :: text) = (pieces text).map fun p => (.char c :: p.1, p.2) := by
  rw [pieces.eq_5 c text unquoted (fun _ _ _ _ _ same _ => unmarked same)
    (fun _ _ same _ => unmarked same), if_neg (by simp [unmarked]; omega)]
  cases pieces text <;> rfl

/-- A character is read as its code units. -/
theorem pieces_escapeChar (c : Char) (text : List Char) :
    pieces (Value.escapeChar c ++ text) =
      (pieces text).map fun p => (piecesOf c ++ p.1, p.2) := by
  have single (small : c.toNat < 65536) : piecesOf c = [.char c] := if_pos small
  unfold Value.escapeChar
  split
  · rename_i mark
    subst mark
    rw [single (by decide)]
    exact pieces_mark (by decide) text
  split
  · rename_i mark
    subst mark
    rw [single (by decide)]
    exact pieces_mark (by decide) text
  split
  · rename_i mark
    subst mark
    rw [single (by decide)]
    exact pieces_mark (by decide) text
  rename_i unquoted unmarked _
  split
  · rename_i shown
    simp only [Bool.and_eq_true, decide_eq_true_eq] at shown
    rw [single (by omega)]
    exact pieces_plain shown.1 unquoted unmarked text
  split
  · rename_i small
    rw [single small, pieces_code small, ofCode_toNat]
    rfl
  · -- Two codes stand for a character beyond sixteen bits.
    rename_i large
    have valid : c.toNat < 55296 ∨ 57343 < c.toNat ∧ c.toNat < 1114112 := c.valid
    have high : Piece.ofCode (55296 + (c.toNat - 65536) / 1024) =
        .high (55296 + (c.toNat - 65536) / 1024) := by
      unfold Piece.ofCode
      rw [if_pos (by simp; omega)]
    have low : Piece.ofCode (56320 + (c.toNat - 65536) % 1024) =
        .low (56320 + (c.toNat - 65536) % 1024) := by
      unfold Piece.ofCode
      rw [if_neg (by simp), if_pos (by simp; omega)]
    rw [piecesOf, if_neg large, List.append_assoc, pieces_code (by omega), pieces_code (by omega),
      high, low, Option.map_map]
    rfl

/-- The code units of a character are paired to it. -/
theorem pair_piecesOf (c : Char) (more : List Piece) :
    pair (piecesOf c ++ more) = (pair more).map (c :: ·) := by
  unfold piecesOf
  split
  · exact pair.eq_2 c more
  · rename_i large
    have whole : 65536 + (55296 + (c.toNat - 65536) / 1024 - 55296) * 1024 +
        (56320 + (c.toNat - 65536) % 1024 - 56320) = c.toNat := by
      omega
    show pair (.high _ :: .low _ :: more) = _
    rw [pair, whole, Char.ofNat_toNat]

/-- A text is read up to the quote behind it. -/
theorem pieces_written (text rest : List Char) :
    pieces (text.flatMap Value.escapeChar ++ '"' :: rest) = some (text.flatMap piecesOf, rest) := by
  induction text with
  | nil => rfl
  | cons c text ih =>
    rw [List.flatMap_cons, List.flatMap_cons, List.append_assoc, pieces_escapeChar, ih]
    rfl

/-- Its code units are those of its characters. -/
theorem pair_written (text : List Char) : pair (text.flatMap piecesOf) = some text := by
  induction text with
  | nil => rfl
  | cons c text ih =>
    rw [List.flatMap_cons, pair_piecesOf, ih]
    rfl

-- A text in quotes has two quotes.
theorem two_le_length_quote (s : String) : 2 ≤ (Value.quote s).toList.length := by
  rw [Value.quote, String.toList_ofList]
  simp

/-- A text in quotes is a token. -/
theorem token_quote (s : String) (rest : List Char) :
    token ((Value.quote s).toList ++ rest) = some (.str (some s), rest) := by
  have shape : (Value.quote s).toList ++ rest =
      '"' :: (s.toList.flatMap Value.escapeChar ++ '"' :: rest) := by
    rw [Value.quote, String.toList_ofList]
    simp
  rw [shape, token, pieces_written, Option.map_some, pair_written, Option.map_some,
    String.ofList_toList]

end Texts

section Numbers

-- The digits of a number that is not zero do not begin with a zero.
theorem head_toDigits {n : Nat} (positive : 0 < n) : (Nat.toDigits 10 n).head? ≠ some '0' := by
  induction n using Nat.strongRecOn with
  | _ n ih =>
    rcases Nat.lt_or_ge n 10 with small | large
    · rw [Nat.toDigits_of_lt_base small]
      have nonzero : ∀ k : Fin 10, 0 < k.val → [k.val.digitChar].head? ≠ some '0' := by decide
      exact nonzero ⟨n, small⟩ positive
    · rw [Nat.toDigits_of_base_le (by decide) large, List.head?_append]
      have more := ih (n / 10) (by omega) (by omega)
      obtain ⟨d, ds, shape⟩ := List.exists_cons_of_ne_nil (Nat.toDigits_ne_nil (n := n / 10) (b := 10))
      rw [shape] at more ⊢
      exact more

-- So a first zero is the only digit.
theorem zero_alone (n : Nat) (zero : (Nat.toDigits 10 n).head? = some '0') :
    (Nat.toDigits 10 n).length ≤ 1 := by
  rcases Nat.eq_zero_or_pos n with rfl | positive
  · decide
  · exact absurd zero (head_toDigits positive)

/-- The digits of a number are a token, if something else is behind them. -/
theorem token_digits (n : Nat) {c : Char} (rest : List Char)
    (other : c.isDigit = false ∧ c ≠ '.' ∧ c ≠ 'e' ∧ c ≠ 'E') :
    token (Nat.toDigits 10 n ++ c :: rest) = some (.num (.ofNat n), c :: rest) := by
  have digits : ∀ d ∈ Nat.toDigits 10 n, d.isDigit = true :=
    fun d mem => Nat.isDigit_of_mem_toDigits (by decide) (by decide) mem
  have front : (Nat.toDigits 10 n ++ c :: rest).takeWhile Char.isDigit = Nat.toDigits 10 n := by
    rw [List.takeWhile_append_of_pos digits, List.takeWhile_cons_of_neg (by simp [other.1]),
      List.append_nil]
  have behind : (Nat.toDigits 10 n ++ c :: rest).dropWhile Char.isDigit = c :: rest := by
    rw [List.dropWhile_append_of_pos digits, List.dropWhile_cons_of_neg (by simp [other.1])]
  obtain ⟨d, ds, shape⟩ := List.exists_cons_of_ne_nil (Nat.toDigits_ne_nil (n := n) (b := 10))
  have read : number? false (Nat.toDigits 10 n ++ c :: rest) = some (.ofNat n, c :: rest) := by
    have whole : digits? (Nat.toDigits 10 n ++ c :: rest) =
        some (Nat.toDigits 10 n, c :: rest) := by
      unfold digits?
      rw [front, behind, shape]
    have fraction : fraction? (c :: rest) = some ([], c :: rest) :=
      fraction?.eq_2 _ fun _ same => other.2.1 (List.cons.inj same).1
    have exponent : exponent? (c :: rest) = some ([], c :: rest) := by
      simp [exponent?, other]
    simpa [number?, whole, fraction, exponent, Number.ofNat] using zero_alone n
  have first : d.isDigit = true := digits d (by rw [shape]; exact List.mem_cons_self)
  rw [shape, List.cons_append] at read ⊢
  -- No mark begins with a digit.
  have marks {k : Char} {more : List Char} (mark : k.isDigit = false) :
      d :: (ds ++ c :: rest) = k :: more → False := by
    intro same
    rw [← (List.cons.inj same).1, first] at mark
    exact absurd mark (by decide)
  refine (token.eq_13 _ (List.cons_ne_nil _ _) ?_ ?_ ?_ ?_ ?_ ?_ ?_ ?_ ?_ ?_ ?_).trans
    (by rw [read]; rfl)
  all_goals exact fun _ => marks rfl

end Numbers

section Rounds

variable (n : Nat) (rest : List Char)

/-- A token is read in one round. -/
theorem tokensWithin_token {c : Char} {text : List Char} {t : Token}
    (solid : isBlank c = false) (read : token (c :: text) = some (t, rest)) :
    tokensWithin (n + 1) (c :: text) = t :: tokensWithin n rest := by
  rw [tokensWithin, List.dropWhile_cons_of_neg (by simp [solid])]
  simp only [read]

/-- So is a text in quotes. -/
theorem tokensWithin_quote (s : String) :
    tokensWithin (n + 1) ((Value.quote s).toList ++ rest) =
      .str (some s) :: tokensWithin n rest := by
  have read := token_quote s rest
  rw [Value.quote, String.toList_ofList] at read ⊢
  exact tokensWithin_token n rest (by decide) read

/-- So is a number. -/
theorem tokensWithin_digits (k : Nat) {c : Char}
    (other : c.isDigit = false ∧ c ≠ '.' ∧ c ≠ 'e' ∧ c ≠ 'E') :
    tokensWithin (n + 1) (Nat.toDigits 10 k ++ c :: rest) =
      .num (.ofNat k) :: tokensWithin n (c :: rest) := by
  have read := token_digits k rest other
  obtain ⟨d, ds, shape⟩ := List.exists_cons_of_ne_nil (Nat.toDigits_ne_nil (n := k) (b := 10))
  have digit : d.isDigit = true := Nat.isDigit_of_mem_toDigits (b := 10) (n := k) (by decide)
    (by decide) (by rw [shape]; exact List.mem_cons_self)
  have solid : isBlank d = false := by
    refine Bool.eq_false_iff.mpr fun blank => ?_
    simp only [isBlank, Bool.or_eq_true, decide_eq_true_eq] at blank
    rcases blank with ((rfl | rfl) | rfl) | rfl <;> exact absurd digit (by decide)
  rw [shape] at read ⊢
  exact tokensWithin_token n (c :: rest) solid read

end Rounds

end Json

end TxRelay
