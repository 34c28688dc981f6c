import TxRelay.Url.Idna.Domain
import TxRelay.Url.Percent
import TxRelay.Url.Scheme

/-!
# Paths

A path is a row of segments with a slash before each, or a text that means
something to its scheme alone. A segment of one dot stands for nothing and one
of two dots takes back the segment before it. No dots lead out of a drive.

## Main definitions

* `Url.Path`: What follows the scheme and the host.
* `Url.Path.ofText`: Reads a path behind its first slash.
* `Url.Path.render`: Writes a path.
-/

namespace TxRelay

namespace Url

/-- What follows the scheme and the host. -/
inductive Path where
  /-- A text that means something to the scheme alone. -/
  | opaqueText (text : List Char)
  /-- Segments, with a slash before each. -/
  | segments (parts : List (List Char))
  deriving DecidableEq

/-- Whether a segment stands for the segment before it. -/
def isDoubleDot (segment : List Char) : Bool :=
  ["..", ".%2e", "%2e.", "%2e%2e"].contains (String.ofList (segment.map Char.toLower))

/-- Whether a segment stands for nothing. -/
def isSingleDot (segment : List Char) : Bool :=
  [".", "%2e"].contains (String.ofList (segment.map Char.toLower))

/-- Whether a segment names a drive: a letter, and a colon or a bar. -/
def isDrive : List Char → Bool
  | [letter, mark] => letter.isAlpha && (mark == ':' || mark == '|')
  | _ => false

/-- Whether a segment is a drive up to the first slash of either kind. -/
def beginsWithDrive (segment : List Char) : Bool :=
  isDrive (segment.takeWhile (· != '\\'))

namespace Path

/-- Adds a segment to those before it, of which the last one comes first. Dots
    at the end of a path leave an empty segment. -/
def add (before : List (List Char)) (segment : List Char) (isFinal : Bool) : List (List Char) :=
  let ending : List (List Char) := if isFinal then [[]] else []
  if isDoubleDot segment then
    ending ++ if before.head?.any beginsWithDrive then before else before.drop 1
  else if isSingleDot segment then ending ++ before
  else encodeWith inPath segment :: before

/-- Adds segments to those before them, of which the last one comes first. -/
def addAll (before : List (List Char)) : List (List Char) → List (List Char)
  | [] => before
  | segment :: rest => addAll (add before segment rest.isEmpty) rest

/-- The path behind its first slash. -/
def ofText (kind : Kind) (text : List Char) : Path :=
  .segments (addAll [] (splitAt kind.isSlash text)).reverse

/-- Writes a path. -/
def render : Path → List Char
  | .opaqueText text => text
  | .segments parts => parts.flatMap ('/' :: ·)

end Path

end Url

end TxRelay
