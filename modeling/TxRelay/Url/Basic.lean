import TxRelay.Url.LocalFile

/-!
# URLs

An endpoint is given by a URL, and a text that is none is no endpoint. Reading
a URL puts it into its usual form: blanks around it are dropped, scheme and
host are in lower case, a port that the scheme implies is left out, dots in
the path are followed, and what a part cannot hold is encoded.

A scheme of the web may be followed by any number of slashes, and a host
follows them. Any other scheme may be followed by a host after two slashes, by
a path after one, or by a text that means something to the scheme alone.

## Main definitions

* `Url`: A URL in its usual form.
* `Url.parse?`: Reads one.
* `Url.render`: Writes one.
-/

namespace TxRelay

/-- A URL in its usual form. -/
structure Url where
  /-- The scheme. -/
  scheme : List Char
  /-- What follows two slashes. -/
  authority : Option Url.Authority
  /-- The path. -/
  path : Url.Path
  /-- What follows a question mark. -/
  query : Option (List Char)
  /-- What follows a number sign. -/
  fragment : Option (List Char)
  deriving DecidableEq

namespace Url

/-- Reads a host and the path behind it. `isLast` says whether the URL ends
    with them. -/
def place? (kind : Kind) (text : List Char) (isLast : Bool) : Option (Option Authority × Path) := do
  let front := text.takeWhile (!kind.isSlash ·)
  let behind := text.dropWhile (!kind.isSlash ·)
  let (a, rest) ← Authority.parse? kind front (isLast && behind.isEmpty)
  match rest ++ behind with
  | [] => pure (some a, if kind = .other then .segments [] else Path.ofText kind [])
  | c :: more =>
    -- A path that no slash begins gets one.
    pure (some a, Path.ofText kind (if kind.isSlash c then more else c :: more))

/-- Reads what stands between the scheme and the query. -/
def body? (kind : Kind) (text : List Char) (isLast : Bool) : Option (Option Authority × Path) :=
  match kind with
  | .file => (LocalFile.parse? text).map fun f => (some (Authority.ofHost f.host), f.path)
  | .web _ => place? kind ((gapless text).dropWhile kind.isSlash) isLast
  | .other =>
    match gapless text with
    | '/' :: '/' :: rest => place? kind rest isLast
    | '/' :: rest => some (none, Path.ofText kind rest)
    | rest => some (none, .opaqueText (encodeWith inOpaque rest))

/-- Reads a URL. -/
def parse? (text : String) : Option Url := do
  let (scheme, rest) ← scheme? (trimmed text.toList)
  let kind := Kind.ofScheme scheme
  -- A question mark behind a number sign belongs to the fragment.
  let (rest, fragment) := cutAt '#' rest
  let (rest, query) := cutAt '?' rest
  let (authority, path) ← body? kind rest (query.isNone && fragment.isNone)
  pure
    { scheme := scheme
      authority := authority
      path := path
      query := query.map fun q => encodeWith (inQuery (kind != .other)) (gapless q)
      fragment := fragment.map fun f => encodeWith inFragment (gapless f) }

/-- Writes a URL. A path that begins with two slashes is kept apart from a
    host. -/
def render (u : Url) : String :=
  let body :=
    match u.authority, u.path with
    | some a, p => '/' :: '/' :: a.render ++ p.render
    | none, .segments ([] :: more :: rest) => '/' :: '.' :: (Path.segments ([] :: more :: rest)).render
    | none, p => p.render
  String.ofList (u.scheme ++ ':' :: body ++ u.query.elim [] ('?' :: ·) ++
    u.fragment.elim [] ('#' :: ·))

end Url

end TxRelay
