/-!
# Schemes

A URL begins with its scheme, and the scheme decides how the rest is read. The
schemes of the web always name a host and have a path, and slashes of either
kind count alike in them. A scheme that is not known may be followed by
anything.

## Main definitions

* `Url.Kind`: How a scheme is read.
* `Url.scheme?`: Reads the scheme of a text.
* `Url.gapless`: A text without the gaps that readers pass over.
-/

namespace TxRelay

namespace Url

/-- How a scheme is read. -/
inductive Kind where
  /-- A scheme of the web, with the port it implies. -/
  | web (port : Nat)
  /-- The scheme of local files. -/
  | file
  /-- Any other scheme. -/
  | other
  deriving DecidableEq

namespace Kind

/-- How a scheme is read. -/
def ofScheme (scheme : List Char) : Kind :=
  match String.ofList scheme with
  | "http" | "ws" => .web 80
  | "https" | "wss" => .web 443
  | "ftp" => .web 21
  | "file" => .file
  | _ => .other

/-- The port that a scheme implies. -/
def usualPort? : Kind → Option Nat
  | .web port => some port
  | .file => none
  | .other => none

/-- Whether a character separates the parts of a path. -/
def isSlash (kind : Kind) (c : Char) : Bool :=
  c == '/' || (kind != .other && c == '\\')

end Kind

/-- Tabulators and line ends, which count nowhere. -/
def isGap (c : Char) : Bool :=
  c == '\t' || c == '\n' || c == '\r'

/-- A text without gaps. -/
def gapless (text : List Char) : List Char :=
  text.filter (!isGap ·)

/-- A text without blanks and controls at its ends. -/
def trimmed (text : List Char) : List Char :=
  let isEdge (c : Char) : Bool := c.toNat ≤ 32
  ((text.dropWhile isEdge).reverse.dropWhile isEdge).reverse

/-- The scheme before the first colon, in lower case, and what follows. -/
def scheme? (text : List Char) : Option (List Char × List Char) :=
  let isPart (c : Char) : Bool :=
    c.isAlphanum || c == '+' || c == '-' || c == '.' || isGap c
  match text.head?, text.dropWhile isPart with
  | some first, ':' :: rest =>
    if first.isAlpha then
      some ((gapless (text.takeWhile isPart)).map Char.toLower, rest)
    else none
  | _, _ => none

/-- Cuts a text at the first mark, if there is one. -/
def cutAt (mark : Char) (text : List Char) : List Char × Option (List Char) :=
  match text.dropWhile (· != mark) with
  | _ :: rest => (text.takeWhile (· != mark), some rest)
  | [] => (text, none)

/-- Cuts a text at the last mark, if there is one. -/
def cutAtLast (mark : Char) (text : List Char) : Option (List Char) × List Char :=
  match cutAt mark text.reverse with
  | (after, some before) => (some before.reverse, after.reverse)
  | (_, none) => (none, text)

end Url

end TxRelay
