/-!
# Media Types

A request says of what kind its body is. The kind is a type and a subtype with
a slash between them, in letters of either case, perhaps with parameters behind
a semicolon. A subtype may end in a plus sign and the format that the kind is
written in.

A parameter is a name, an equals sign and a value, which may stand in quotes.
Quotes hold at least one character, so a quote right behind the opening one is
that character. The last value may be missing.

## Main definitions

* `Api.Spot`: Where in a list of parameters a reader stands.
* `Api.areParameters`: Whether a text is a list of parameters.
* `Api.isJson`: Whether a body of a kind is read as JSON.
-/

namespace TxRelay

namespace Api

/-- A character that words of a media type are made of. -/
def isTokenChar (c : Char) : Bool :=
  (c.toNat < 128 && c.isAlphanum) || c.toNat == 39 || c.toNat == 96 ||
    ['!', '#', '$', '%', '&', '*', '+', '-', '.', '^', '_', '|', '~'].contains c

/-- Where in a list of parameters a reader stands. -/
inductive Spot where
  /-- Before the name of a parameter. -/
  | beforeName
  /-- In a name. -/
  | inName
  /-- Behind the equals sign. -/
  | beforeValue
  /-- In a value. -/
  | inValue
  /-- In quotes, perhaps right behind the opening one. -/
  | inQuotes (isFirst : Bool)
  /-- Behind the closing quote. -/
  | behindQuotes
  deriving DecidableEq

namespace Spot

/-- Where a reader stands in a word after one more of its characters. -/
def within? (here : Spot) (c : Char) : Option Spot :=
  if isTokenChar c then some here else none

/-- Reads a character. -/
def next? (c : Char) : Spot → Option Spot
  | beforeName => if c == ' ' then some beforeName else within? inName c
  | inName => if c == '=' then some beforeValue else within? inName c
  | beforeValue => if c == '"' then some (inQuotes true) else within? inValue c
  | inValue => if c == ';' then some beforeName else within? inValue c
  | inQuotes isFirst =>
    if c == '"' && !isFirst then some behindQuotes
    else if 32 ≤ c.toNat && c.toNat < 127 then some (inQuotes false)
    else none
  | behindQuotes =>
    if c == ' ' then some behindQuotes
    else if c == ';' then some beforeName
    else none

/-- Whether a list of parameters may end here. -/
def isEnd : Spot → Bool
  | inName => false
  | inQuotes _ => false
  | beforeName | beforeValue | inValue | behindQuotes => true

end Spot

/-- Whether a text is a list of parameters. -/
def areParameters (text : List Char) : Bool :=
  (text.foldlM (fun spot c => Spot.next? c spot) Spot.beforeName).any Spot.isEnd

/-- A subtype without the format behind its last plus sign, and that format. A
    plus sign at the very front belongs to the subtype. -/
def cutSuffix (subtype : List Char) : List Char × Option (List Char) :=
  let suffix := (subtype.reverse.takeWhile (· != '+')).reverse
  let before := subtype.take (subtype.length - suffix.length - 1)
  if subtype.contains '+' && !before.isEmpty then (before, some suffix) else (subtype, none)

/-- Whether what follows a subtype is nothing, or parameters behind a
    semicolon. -/
def isRest : List Char → Bool
  | [] => true
  | c :: parameters => c == ';' && areParameters parameters

/-- Whether a body of this kind is read as JSON. -/
def isJson (kind : String) : Bool :=
  let text := kind.toList.map Char.toLower
  match text.dropWhile isTokenChar with
  | '/' :: behind =>
    let type := text.takeWhile isTokenChar
    let s := cutSuffix (behind.takeWhile isTokenChar)
    let json := "json".toList
    isRest (behind.dropWhile isTokenChar) && type == "application".toList &&
      (s.1 == json || s.2 == some json)
  | _ => false

end Api

end TxRelay
