import TxRelay.Toml.Value

/-!
# Texts, Numbers and Dates in TOML

Readers for the values that contain no other values. A reader takes the
characters that are left and gives what it read and what is left then, or
nothing if the text is not what it reads.

## Main definitions

* `Toml.basicString`, `Toml.literalString` and their forms over many lines.
* `Toml.number`, `Toml.dateTime`: Numbers and dates.
* `Toml.key`: A part of a key.
-/

namespace TxRelay

namespace Toml

/-- Takes characters from the front of a text. -/
abbrev Reader (α : Type) := List Char → Option (α × List Char)

/-- A blank within a line. -/
def isBlank (c : Char) : Bool := c = ' ' || c = '\t'

/-- A character that may stand in a comment or unescaped in a text: no control
    character other than the tabulator. -/
def isPlain (c : Char) : Bool :=
  c = '\t' || (32 ≤ c.toNat && c.toNat != 127)

/-- The text behind the blanks at its front. -/
def skipBlanks (text : List Char) : List Char := text.dropWhile isBlank

/-- The text behind a line end, if it begins with one. -/
def lineEnd? : List Char → Option (List Char)
  | '\n' :: rest => some rest
  | '\r' :: '\n' :: rest => some rest
  | _ => none

/-- The text behind a comment, if it begins with one. -/
def skipComment (text : List Char) : List Char :=
  match text with
  | '#' :: rest => rest.dropWhile isPlain
  | _ => text

/-- The value of a hexadecimal digit. -/
def hexDigit? (c : Char) : Option Nat :=
  if c.isDigit then some (c.toNat - 48)
  else if 'a' ≤ c && c ≤ 'f' then some (c.toNat - 87)
  else if 'A' ≤ c && c ≤ 'F' then some (c.toNat - 55)
  else none

/-- The number written by exactly these hexadecimal digits. -/
def hexValue? (digits : List Char) : Option Nat :=
  digits.foldlM (fun acc c => (hexDigit? c).map (acc * 16 + ·)) 0

/-- The character with a code, if the code is that of a character. -/
def scalar? (n : Nat) : Option Char :=
  if n < 0xD800 || (0xE000 ≤ n && n < 0x110000) then some (Char.ofNat n) else none

/-- Reads an escape, behind its backslash. -/
def escape : Reader Char
  | 'b' :: rest => some (Char.ofNat 8, rest)
  | 't' :: rest => some ('\t', rest)
  | 'n' :: rest => some ('\n', rest)
  | 'f' :: rest => some (Char.ofNat 12, rest)
  | 'r' :: rest => some ('\r', rest)
  | '"' :: rest => some ('"', rest)
  | '\\' :: rest => some ('\\', rest)
  | 'u' :: rest => code 4 rest
  | 'U' :: rest => code 8 rest
  | _ => none
where
  /-- Reads the code of a character in so many digits. -/
  code (n : Nat) (rest : List Char) : Option (Char × List Char) :=
    if (rest.take n).length = n then do
      let c ← (hexValue? (rest.take n)).bind scalar?
      pure (c, rest.drop n)
    else none

/-- Reads a text in double quotes, behind the first. Every round takes a
    character, so as many rounds as characters are enough. -/
def basicWithin : Nat → Reader (List Char)
  | 0, _ => none
  | n + 1, text =>
    match text with
    | '"' :: rest => some ([], rest)
    | '\\' :: rest => do
      let e ← escape rest
      let more ← basicWithin n e.2
      pure (e.1 :: more.1, more.2)
    | c :: rest =>
      if isPlain c then do
        let more ← basicWithin n rest
        pure (c :: more.1, more.2)
      else none
    | [] => none

/-- Reads a text in double quotes on one line, behind the first quote. -/
def basicString : Reader String := fun text =>
  (basicWithin text.length text).map fun r => (String.ofList r.1, r.2)

/-- Reads a text in single quotes on one line, behind the first quote. -/
def literalString : Reader String := fun text =>
  let quote := Char.ofNat 39
  let body := text.takeWhile fun c => isPlain c && c != quote
  match text.dropWhile fun c => isPlain c && c != quote with
  | c :: rest => if c = quote then some (String.ofList body, rest) else none
  | [] => none

/-- The text behind a backslash at the end of a line: all blanks and line ends
    are left out. At least one line must end. -/
def continued (text : List Char) : Option (List Char) :=
  (lineEnd? (skipBlanks text)).map skip
where
  /-- Leaves out blanks and line ends. -/
  skip (text : List Char) : List Char :=
    let rec go : Nat → List Char → List Char
      | 0, t => t
      | n + 1, t =>
        match lineEnd? (skipBlanks t) with
        | some rest => go n rest
        | none => skipBlanks t
    go text.length text

/-- How many quotes stand at the front of a text, and what follows them. -/
def quoteRun (quote : Char) (text : List Char) : Nat × List Char :=
  ((text.takeWhile (· == quote)).length, text.dropWhile (· == quote))

/-- Reads a text over many lines up to its three closing quotes. One or two
    quotes may stand anywhere, also right before the closing ones. -/
def manyWithin (quote : Char) (escapes : Bool) : Nat → Reader (List Char)
  | 0, _ => none
  | n + 1, text =>
    match text with
    | [] => none
    | c :: rest =>
      if c = quote then
        let run := quoteRun quote text
        if run.1 < 3 then do
          let more ← manyWithin quote escapes n run.2
          pure (List.replicate run.1 quote ++ more.1, more.2)
        else if run.1 ≤ 5 then some (List.replicate (run.1 - 3) quote, run.2)
        else none
      else if c = '\\' && escapes then
        match escape rest with
        | some e => do
          let more ← manyWithin quote escapes n e.2
          pure (e.1 :: more.1, more.2)
        | none => do
          let after ← continued rest
          manyWithin quote escapes n after
      else
        match lineEnd? text with
        | some after => do
          let more ← manyWithin quote escapes n after
          pure ('\n' :: more.1, more.2)
        | none =>
          if isPlain c then do
            let more ← manyWithin quote escapes n rest
            pure (c :: more.1, more.2)
          else none

/-- Reads a text over many lines, behind its three opening quotes. A line end
    right behind them does not count. -/
def manyString (quote : Char) (escapes : Bool) : Reader String := fun text =>
  let body := (lineEnd? text).getD text
  (manyWithin quote escapes (body.length + 1) body).map fun r => (String.ofList r.1, r.2)

/-- Reads a text in quotes of either kind, on one line or over many. -/
def string : Reader String := fun text =>
  let single := Char.ofNat 39
  match text with
  | '"' :: '"' :: '"' :: rest => manyString '"' true rest
  | '"' :: rest => basicString rest
  | c :: rest =>
    if c = single then
      match rest with
      | d :: e :: more =>
        if d = single && e = single then manyString single false more else literalString rest
      | _ => literalString rest
    else none
  | [] => none

/-- A character of a key without quotes. -/
def isBare (c : Char) : Bool :=
  (c.toNat < 128 && c.isAlphanum) || c = '_' || c = '-'

/-- Reads a part of a key. -/
def key : Reader String := fun text =>
  match text with
  | '"' :: rest => basicString rest
  | c :: rest =>
    if c = Char.ofNat 39 then literalString rest
    else
      match text.takeWhile isBare with
      | [] => none
      | bare => some (String.ofList bare, text.dropWhile isBare)
  | [] => none

/-- Reads digits of a kind with single underscores between them. -/
def groupedDigits (isDigit : Char → Bool) : Reader (List Char)
  | c :: rest =>
    if isDigit c then
      match groupedDigits isDigit rest with
      | some more => some (c :: more.1, more.2)
      | none =>
        match rest with
        | '_' :: _ =>
          -- An underscore has to be followed by a digit.
          match groupedAfter rest with
          | some more => some (c :: more.1, more.2)
          | none => none
        | _ => some ([c], rest)
    else none
  | [] => none
where
  /-- Reads an underscore and the digits behind it. -/
  groupedAfter : Reader (List Char)
    | '_' :: rest => groupedDigits isDigit rest
    | _ => none

/-- The number written by digits in a base. -/
def digitsIn (base : Nat) (digits : List Char) : Nat :=
  digits.foldl (fun acc c => acc * base + (hexDigit? c).getD 0) 0

/-- An integer of 64 bits with a sign. -/
def int64? (n : Int) : Option Value :=
  if -(Nat.pow 2 63 : Int) ≤ n && n < (Nat.pow 2 63 : Int) then some (.int n) else none

/-- Reads an integer with a base in front, behind it. -/
def based (base : Nat) (isDigit : Char → Bool) : Reader Value := fun text => do
  let d ← groupedDigits isDigit text
  let v ← int64? (digitsIn base d.1)
  pure (v, d.2)

/-- Reads the exponent of a number, behind the `e`. -/
def exponent : Reader Int
  | '+' :: rest => (groupedDigits Char.isDigit rest).map fun d => ((digitsIn 10 d.1 : Int), d.2)
  | '-' :: rest => (groupedDigits Char.isDigit rest).map fun d => (-(digitsIn 10 d.1 : Int), d.2)
  | rest => (groupedDigits Char.isDigit rest).map fun d => ((digitsIn 10 d.1 : Int), d.2)

/-- Whether the number with these digits, of which so many stand behind its
    point, and this exponent is too large for a double. -/
def tooLarge (digits places : Nat) (e : Int) : Bool :=
  let bound := Nat.pow 2 1024 - Nat.pow 2 970
  let e := e - places
  if digits = 0 then false
  else if 0 ≤ e then decide (400 < e) || decide (bound ≤ digits * Nat.pow 10 e.toNat)
  else decide (bound * Nat.pow 10 (min (-e).toNat (digits.log2 + 400)) ≤ digits)

/-- Reads what may follow the integer digits of a number: a fraction, an
    exponent, both or nothing. -/
def fractional (sign : Int) (whole : List Char) : Reader Value := fun text =>
  let withExponent (digits : List Char) (places : Nat) (isFloat : Bool) (rest : List Char) :
      Option (Value × List Char) :=
    let finish (e : Int) (rest : List Char) : Option (Value × List Char) :=
      if 0 < sign && tooLarge (digitsIn 10 digits) places e then none else some (.float, rest)
    match rest with
    | 'e' :: more | 'E' :: more => do
      let e ← exponent more
      finish e.1 e.2
    | _ =>
      if isFloat then finish 0 rest
      else (int64? (sign * (digitsIn 10 digits : Int))).map fun v => (v, rest)
  match text with
  | '.' :: rest => do
    let f ← groupedDigits Char.isDigit rest
    withExponent (whole ++ f.1) f.1.length true f.2
  | _ => withExponent whole 0 false text

/-- Reads a number, behind its sign. -/
def unsigned (sign : Int) : Reader Value := fun text =>
  match text with
  | 'i' :: 'n' :: 'f' :: rest => some (.float, rest)
  | 'n' :: 'a' :: 'n' :: rest => some (.float, rest)
  | '0' :: rest =>
    -- A zero stands alone before the point.
    match rest with
    | c :: _ => if c.isDigit || c = '_' then none else fractional sign ['0'] rest
    | [] => fractional sign ['0'] []
  | _ => do
    let whole ← groupedDigits Char.isDigit text
    fractional sign whole.1 whole.2

/-- Reads a number. -/
def number : Reader Value := fun text =>
  match text with
  | '+' :: rest => unsigned 1 rest
  | '-' :: rest => unsigned (-1) rest
  | '0' :: 'x' :: rest => based 16 (fun c => (hexDigit? c).isSome) rest
  | '0' :: 'o' :: rest => based 8 (fun c => '0' ≤ c && c ≤ '7') rest
  | '0' :: 'b' :: rest => based 2 (fun c => c = '0' || c = '1') rest
  | _ => unsigned 1 text

/-- Reads exactly so many digits. -/
def fixedDigits (n : Nat) : Reader Nat := fun text =>
  let d := text.take n
  if d.length = n && d.all Char.isDigit then some (digitsIn 10 d, text.drop n) else none

/-- Reads a number of two digits within bounds. -/
def twoDigits (low high : Nat) : Reader Nat := fun text => do
  let d ← fixedDigits 2 text
  if low ≤ d.1 && d.1 ≤ high then pure d else none

/-- The number of days of a month. -/
def daysIn (year month : Nat) : Nat :=
  if month = 2 then
    if year % 4 = 0 && (year % 100 != 0 || year % 400 = 0) then 29 else 28
  else if month = 4 || month = 6 || month = 9 || month = 11 then 30
  else 31

/-- Leaves out a character. -/
def skipChar (c : Char) : List Char → Option (List Char)
  | d :: rest => if c = d then some rest else none
  | [] => none

/-- Reads a date. -/
def fullDate : Reader Unit := fun text => do
  let year ← fixedDigits 4 text
  let text ← skipChar '-' year.2
  let month ← twoDigits 1 12 text
  let text ← skipChar '-' month.2
  let day ← twoDigits 1 31 text
  if day.1 ≤ daysIn year.1 month.1 then pure ((), day.2) else none

/-- Reads a time of day. -/
def partialTime : Reader Unit := fun text => do
  let hour ← twoDigits 0 23 text
  let text ← skipChar ':' hour.2
  let minute ← twoDigits 0 59 text
  let text ← skipChar ':' minute.2
  let second ← twoDigits 0 60 text
  match second.2 with
  | '.' :: rest =>
    match rest.takeWhile Char.isDigit with
    | [] => pure ((), second.2)
    | _ => pure ((), rest.dropWhile Char.isDigit)
  | rest => pure ((), rest)

/-- Reads the distance of a time from universal time, if it is given. -/
def timeOffset (text : List Char) : List Char :=
  match text with
  | 'Z' :: rest | 'z' :: rest => rest
  | c :: rest =>
    if c = '+' || c = '-' then
      let read : Option (List Char) := do
        let hour ← twoDigits 0 23 rest
        let more ← skipChar ':' hour.2
        let minute ← twoDigits 0 59 more
        pure minute.2
      read.getD text
    else text
  | [] => []

/-- Reads a date, a time, or both. -/
def dateTime : Reader Value := fun text =>
  match fullDate text with
  | some (_, rest) =>
    match rest with
    | c :: more =>
      if c = 'T' || c = 't' || c = ' ' then
        match partialTime more with
        | some (_, after) => some (.date, timeOffset after)
        | none => some (.date, rest)
      else some (.date, rest)
    | [] => some (.date, [])
  | none => (partialTime text).map fun r => (.date, r.2)

end Toml

end TxRelay
