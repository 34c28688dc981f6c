import TxRelay.Text.Kind

/-!
# Quoted Text

Texts and characters inside messages stand in quotes. What would end the
quotes, or would not show, is written as an escape: a backslash with a letter
for the usual ones, and a code in braces for the rest.

## Main definitions

* `Text.escape`: A character among those that have to be marked.
* `Text.quote`: A text in double quotes.
* `Text.quotePath`: A path in double quotes.
* `Text.quoteChar`: A character in single quotes.
-/

namespace TxRelay

namespace Text

/-- A code in braces behind `\u`. -/
def codeEscape (c : Char) : List Char :=
  '\\' :: 'u' :: '\x7b' :: Nat.toDigits 16 c.toNat ++ ['\x7d']

/-- A character between quotes. A backslash and the given marks get a
    backslash before them. -/
def escape (marks : List Char) (c : Char) : List Char :=
  if c = '\x00' then ['\\', '0']
  else if c = '\t' then ['\\', 't']
  else if c = '\r' then ['\\', 'r']
  else if c = '\n' then ['\\', 'n']
  else if c = '\\' || marks.contains c then ['\\', c]
  else if isPrintable c then [c]
  else codeEscape c

/-- The mark around single characters. -/
def charMark : Char := Char.ofNat 39

/-- A text in double quotes. -/
def quote (s : String) : String :=
  String.ofList ('"' :: s.toList.flatMap (escape ['"']) ++ ['"'])

/-- A path in double quotes. Quotes of both kinds are marked in it. -/
def quotePath (path : String) : String :=
  String.ofList ('"' :: path.toList.flatMap (escape ['"', charMark]) ++ ['"'])

/-- A character in single quotes. -/
def quoteChar (c : Char) : String :=
  String.ofList (charMark :: escape [charMark] c ++ [charMark])

end Text

end TxRelay
