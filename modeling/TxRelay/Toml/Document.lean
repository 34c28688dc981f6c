import TxRelay.Toml.Scalar

/-!
# TOML Documents

A document is a sequence of lines, each of which is empty, a comment, an entry
`key = value`, or the header of a table or of one more table of a list. Every
key may be dotted, which makes it pass through tables.

A table is defined once. A header may define a table that other headers only
passed through; dotted keys may extend a table that dotted keys began; and
nothing else may define or extend a table that exists. Values in brackets and
braces may be nested to a limited depth, and so may dotted keys.

## Main definitions

* `Toml.value`: Reads a value.
* `Toml.insertAt`: Adds an entry under a dotted key.
* `Toml.openTable`, `Toml.openListed`: Follow a header.
* `Toml.parse?`: Reads a document.
-/

namespace TxRelay

namespace Toml

/-- How deep values and keys may be nested. -/
def maxDepth : Nat := 79

/-- Reads the parts of a dotted key. -/
def keyWithin : Nat → Reader (List String)
  | 0, _ => none
  | n + 1, text => do
    let k ← key (skipBlanks text)
    match skipBlanks k.2 with
    | '.' :: rest => do
      let more ← keyWithin n rest
      pure (k.1 :: more.1, more.2)
    | rest => pure ([k.1], rest)

/-- Reads a dotted key. -/
def dottedKey : Reader (List String) :=
  keyWithin maxDepth

/-- Looks an entry up. -/
def lookup? (k : String) (entries : Entries) : Option Item :=
  (entries.find? fun e => e.1 == k).map (·.2)

/-- Puts an item under a key, in the place of what stood there. -/
def put (k : String) (item : Item) : Entries → Entries
  | [] => [(k, item)]
  | (l, old) :: rest => if k = l then (k, item) :: rest else (l, old) :: put k item rest

/-- Adds an entry under a dotted key. The tables that the key passes through
    must have been begun by dotted keys, or must be new. -/
def insertAt (path : List String) (v : Value) (entries : Entries) : Option Entries :=
  match path with
  | [] => none
  | [k] =>
    match lookup? k entries with
    | none => some (entries ++ [(k, .value v)])
    | some _ => none
  | k :: rest =>
    match lookup? k entries with
    | none => do
      let inner ← insertAt rest v []
      pure (entries ++ [(k, .table .dotted inner)])
    | some (.table .dotted inner) => do
      let inner ← insertAt rest v inner
      pure (put k (.table .dotted inner) entries)
    | some (.table .passed inner) =>
      -- A table that headers passed through may itself be passed through once
      -- more, but not extended.
      match rest with
      | [_] => none
      | _ => do
        let inner ← insertAt rest v inner
        pure (put k (.table .passed inner) entries)
    | some (.tables last before) =>
      match rest with
      | [_] => none
      | _ => do
        let last ← insertAt rest v last
        pure (put k (.tables last before) entries)
    | some _ => none

/-- Changes the table behind a header's path, passing through tables of any
    origin and through the last tables of lists. New ones are made on the
    way. -/
def through (path : List String) (change : Entries → Option Entries) (entries : Entries) :
    Option Entries :=
  match path with
  | [] => change entries
  | k :: rest =>
    match lookup? k entries with
    | none => do
      let inner ← through rest change []
      pure (entries ++ [(k, .table .passed inner)])
    | some (.table origin inner) => do
      let inner ← through rest change inner
      pure (put k (.table origin inner) entries)
    | some (.tables last before) => do
      let last ← through rest change last
      pure (put k (.tables last before) entries)
    | some (.value _) => none

/-- Splits the last part off a path. -/
def splitLast : List String → Option (List String × String)
  | [] => none
  | [k] => some ([], k)
  | k :: rest => (splitLast rest).map fun r => (k :: r.1, r.2)

/-- Defines a table, following its header. -/
def openTable (path : List String) (root : Entries) : Option Entries := do
  let p ← splitLast path
  through p.1 (fun parent =>
    match lookup? p.2 parent with
    | none => some (parent ++ [(p.2, .table .defined [])])
    -- Headers below this table came before its own.
    | some (.table .passed inner) => some (put p.2 (.table .defined inner) parent)
    | some _ => none) root

/-- Adds one more table to a list, following its header. -/
def openListed (path : List String) (root : Entries) : Option Entries := do
  let p ← splitLast path
  through p.1 (fun parent =>
    match lookup? p.2 parent with
    | none => some (parent ++ [(p.2, .tables [] [])])
    | some (.tables last before) => some (put p.2 (.tables [] (last :: before)) parent)
    | some _ => none) root

/-- Adds an entry to the table that the last header opened. -/
def addEntry (header path : List String) (v : Value) (root : Entries) : Option Entries :=
  through header (insertAt path v) root

/-- The text behind blanks, comments and line ends. -/
def skipLines (text : List Char) : List Char :=
  go text.length text
where
  /-- Skips at most so many lines. -/
  go : Nat → List Char → List Char
    | 0, t => t
    | n + 1, t =>
      let t := skipBlanks t
      match t with
      | '#' :: _ =>
        match lineEnd? (skipComment t) with
        | some rest => go n rest
        | none => skipComment t
      | _ =>
        match lineEnd? t with
        | some rest => go n rest
        | none => t

mutual

/-- Reads a value. The first number bounds the rounds, the second the
    depth. -/
def valueWithin : Nat → Nat → Reader Value
  | 0, _, _ => none
  | n + 1, depth, text =>
    match text with
    | [] => none
    | c :: rest =>
      if c = '"' || c = Char.ofNat 39 then (string text).map fun s => (.str s.1, s.2)
      else if c = '[' then
        if depth = 0 then none
        else (itemsWithin n (depth - 1) (skipLines rest)).map fun r => (.array r.1, r.2)
      else if c = '\x7b' then
        if depth = 0 then none
        else
          match skipBlanks rest with
          | '\x7d' :: more => some (.table [], more)
          | more => (pairsWithin n (depth - 1) [] more).map fun r => (.table r.1, r.2)
      else if c = 't' then
        match text with
        | 't' :: 'r' :: 'u' :: 'e' :: more => some (.bool true, more)
        | _ => none
      else if c = 'f' then
        match text with
        | 'f' :: 'a' :: 'l' :: 's' :: 'e' :: more => some (.bool false, more)
        | _ => none
      else
        -- A date begins like a number, and would be cut short as one.
        match dateTime text with
        | some r => some r
        | none => number text

/-- Reads the values of a list, behind its opening bracket. -/
def itemsWithin : Nat → Nat → Reader (List Value)
  | 0, _, _ => none
  | n + 1, depth, text =>
    match text with
    | ']' :: rest => some ([], rest)
    | _ => do
      let v ← valueWithin n depth text
      match skipLines v.2 with
      | ',' :: rest => do
        let more ← itemsWithin n depth (skipLines rest)
        pure (v.1 :: more.1, more.2)
      | ']' :: rest => pure ([v.1], rest)
      | _ => none

/-- Reads the entries of a table in braces, behind the opening one. -/
def pairsWithin : Nat → Nat → Entries → Reader (List (String × Value))
  | 0, _, _, _ => none
  | n + 1, depth, entries, text => do
    let k ← dottedKey text
    match k.2 with
    | '=' :: rest => do
      let v ← valueWithin n depth (skipBlanks rest)
      let entries ← insertAt k.1 v.1 entries
      match skipBlanks v.2 with
      | ',' :: more => pairsWithin n depth entries more
      | '\x7d' :: more => pure (Item.toEntries entries, more)
      | _ => none
    | _ => none

end

/-- Reads a value. -/
def value : Reader Value := fun text =>
  valueWithin (2 * text.length + 2) maxDepth text

/-- A document while it is read: the path of the table that the last header
    opened, and all entries. -/
structure Document where
  /-- The open table. -/
  header : List String
  /-- Everything read so far. -/
  root : Entries

/-- The text behind the end of a line, after blanks and a comment. -/
def finishLine (text : List Char) : Option (List Char) :=
  match skipComment (skipBlanks text) with
  | [] => some []
  | rest => lineEnd? rest

/-- Reads a line. -/
def line (d : Document) (text : List Char) : Option (Document × List Char) :=
  match skipBlanks text with
  | '[' :: '[' :: rest => do
    let k ← dottedKey rest
    match k.2 with
    | ']' :: ']' :: more => do
      let root ← openListed k.1 d.root
      let after ← finishLine more
      pure (⟨k.1, root⟩, after)
    | _ => none
  | '[' :: rest => do
    let k ← dottedKey rest
    match k.2 with
    | ']' :: more => do
      let root ← openTable k.1 d.root
      let after ← finishLine more
      pure (⟨k.1, root⟩, after)
    | _ => none
  | rest =>
    match finishLine rest with
    | some after => some (d, after)
    | none => do
      let k ← dottedKey rest
      match k.2 with
      | '=' :: more => do
        let v ← value (skipBlanks more)
        let root ← addEntry d.header k.1 v.1 d.root
        let after ← finishLine v.2
        pure (⟨d.header, root⟩, after)
      | _ => none

/-- Reads lines. Every line takes a character, so as many rounds as characters
    are enough. -/
def linesWithin : Nat → Document → List Char → Option Document
  | _, d, [] => some d
  | 0, _, _ => none
  | n + 1, d, text => do
    let r ← line d text
    linesWithin n r.1 r.2

/-- Reads a document. A byte order mark before it does not count. -/
def parse? (text : String) : Option Value :=
  let chars := match text.toList with
    | c :: rest => if c.toNat = 0xFEFF then rest else c :: rest
    | [] => []
  (linesWithin chars.length ⟨[], []⟩ chars).map fun d => .table (Item.toEntries d.root)

end Toml

end TxRelay
