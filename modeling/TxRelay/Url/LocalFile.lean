import TxRelay.Url.Authority
import TxRelay.Url.Path

/-!
# Local Files

The URL of a file may name the host that has the file, and its path may begin
with a drive. The host that reads the URL is not named, a drive is written with
a colon, and the files of a drive belong to no host. Empty segments at the
front of a path are left out.

A gap behind the drive separates it from the rest of its segment.

## Main definitions

* `Url.LocalFile`: A host and the path of one of its files.
* `Url.LocalFile.parse?`: Reads them.
-/

namespace TxRelay

namespace Url

/-- A host and the path of one of its files. -/
structure LocalFile where
  /-- The host, empty for the host that reads the URL. -/
  host : Host
  /-- The segments of the path, of which the last one comes first. -/
  before : List (List Char)

namespace LocalFile

/-- The host that reads the URL. -/
def here : Host := .name []

/-- The drive before a gap, and what stands behind the gap. -/
def driveAndRest? (segment : List Char) : Option (List Char × List Char) :=
  match segment.dropWhile isGap with
  | letter :: more =>
    match more.dropWhile isGap with
    | ':' :: gap :: rest =>
      if letter.isAlpha && isGap gap && !(gapless rest).isEmpty then
        some ([letter, ':'], gapless rest)
      else none
    | _ => none
  | [] => none

/-- Adds a segment to a path. -/
def add (f : LocalFile) (segment : List Char) (isFinal : Bool) : LocalFile :=
  let name := gapless segment
  if f.before.isEmpty && isDrive name then ⟨here, [name.take 1 ++ [':']]⟩
  else
    match f.before, driveAndRest? segment with
    | [], some (drive, rest) => { f with before := [encodeWith inPath rest, drive] }
    | before, _ => { f with before := Path.add before name isFinal }

/-- Adds segments to a path. -/
def addAll (f : LocalFile) : List (List Char) → LocalFile
  | [] => f
  | segment :: rest => addAll (f.add segment rest.isEmpty) rest

/-- The file at a path, behind the slash that begins the path. -/
def ofText (host : Host) (text : List Char) : LocalFile :=
  addAll ⟨host, []⟩ (splitAt (Kind.isSlash .file) text)

/-- The path from its first segment that is not empty. -/
def path (f : LocalFile) : Path :=
  let parts := f.before.reverse.dropWhile List.isEmpty
  .segments (if parts.isEmpty then [[]] else parts)

/-- What follows a slash of either kind, if the text begins with one. -/
def behindSlash? (text : List Char) : Option (List Char) :=
  match text.dropWhile isGap with
  | c :: rest => if Kind.isSlash .file c then some rest else none
  | [] => none

/-- Reads a path that may have a host before it. -/
def ofPlace? (text : List Char) : Option LocalFile :=
  let hostText := gapless (text.takeWhile (!Kind.isSlash .file ·))
  let rest := text.dropWhile (!Kind.isSlash .file ·)
  if isDrive hostText then some (ofText here text)
  else if hostText.isEmpty then some (ofText here rest)
  else do
    let host ← Host.parseWeb? hostText
    -- The slash behind the name of this very host begins the path twice.
    if host = .name "localhost".toList then pure (ofText here rest)
    else pure (ofText host (rest.drop 1))

/-- Reads host and path. A host stands behind two slashes. -/
def parse? (text : List Char) : Option LocalFile :=
  match behindSlash? text with
  | none => some (ofText here text)
  | some rest =>
    match behindSlash? rest with
    | none => some (ofText here rest)
    | some place => ofPlace? place

end LocalFile

end Url

end TxRelay
