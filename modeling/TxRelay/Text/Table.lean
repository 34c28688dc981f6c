/-!
# Tables of Characters

What a standard says about characters one by one is kept as text, in words
with blanks between them. A character stands in it as the hexadecimal digits
of its code, and a range of characters as two codes with a hyphen between
them. In a table of groups a word that ends in a colon names what the
characters behind it have in common.

## Main definitions

* `Text.Table.words`, `Text.Table.number`, `Text.Table.cut`,
  `Text.Table.range`: The parts of such a text.
* `Text.Table.Entry`: A range of characters and what is said about it.
* `Text.Table.groups`: Reads a table of groups.
* `Text.Table.lookup?`: What a table says about a character.
-/

namespace TxRelay

namespace Text

namespace Table

/-- The words of a text. -/
def words (text : String) : List (List Char) :=
  let close (s : List (List Char) × List Char) : List (List Char) :=
    if s.2.isEmpty then s.1 else s.2.reverse :: s.1
  let cut := text.toList.foldl
    (fun s c => if c == ' ' || c == '\n' then (close s, []) else (s.1, c :: s.2)) ([], [])
  (close cut).reverse

/-- The number of hexadecimal digits; letters are capitals. -/
def number (digits : List Char) : Nat :=
  digits.foldl (fun n c => n * 16 + (if c.isDigit then c.toNat - 48 else c.toNat - 55)) 0

/-- What stands before the first mark in a word, and what stands behind it. -/
def cut (mark : Char) (word : List Char) : List Char × List Char :=
  (word.takeWhile (· != mark), (word.dropWhile (· != mark)).drop 1)

/-- The first and the last code of a range. -/
def range (word : List Char) : Nat × Nat :=
  let ends := cut '-' word
  (number ends.1, number (if ends.2.isEmpty then ends.1 else ends.2))

/-- A range of characters and what is said about it. -/
structure Entry (α : Type) where
  /-- The first code. -/
  first : Nat
  /-- The last code. -/
  last : Nat
  /-- What is said about the characters. -/
  value : α

/-- Reads a table of groups; `read` reads the names of groups. -/
def groups {α : Type} (read : List Char → α) (text : String) : List (Entry α) :=
  let entries := (words text).foldl
    (fun (s : List (Entry α) × Option α) w =>
      if w.getLast? == some ':' then (s.1, some (read w.dropLast))
      else
        match s.2 with
        | some v => (⟨(range w).1, (range w).2, v⟩ :: s.1, s.2)
        | none => s) ([], none)
  entries.1.reverse

/-- What a table says about a character. -/
def lookup? {α : Type} (table : List (Entry α)) (c : Char) : Option α :=
  (table.find? fun e => e.first ≤ c.toNat && c.toNat ≤ e.last).map Entry.value

end Table

end Text

end TxRelay
