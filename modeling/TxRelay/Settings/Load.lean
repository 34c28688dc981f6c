import TxRelay.Settings.Decode
import TxRelay.Text.Quoted

/-!
# Loading Settings

Settings are loaded from a file. Which one is said by a variable of the
environment; without it there is a usual place. A file that cannot be read,
or is no text, is reported with its path in quotes.

Files are reached through a function from paths to contents. `FileTree` is
such a function for a directory whose files are known.

## Main definitions

* `FileTree.read?`: What a path leads to.
* `Settings.loadFrom`, `Settings.load`: Settings from a file.
-/

namespace TxRelay

/-- The files of a directory and of those within it, each with the parts of
    its path. -/
abbrev FileTree := List (List String × ByteArray)

namespace FileTree

/-- A path cut at its slashes. -/
def parts (path : String) : List String :=
  (path.splitOn "/").filter fun p => !p.isEmpty

/-- Whether a place is a directory. The top one always exists. -/
def isDirectory (place : List String) (files : FileTree) : Bool :=
  place.isEmpty || files.any fun f => place.isPrefixOf f.1 && place.length < f.1.length

/-- The content of the file at a place. -/
def content? (place : List String) (files : FileTree) : Option ByteArray :=
  (files.find? fun f => f.1 == place).map (·.2)

/-- Follows the parts of a path from a directory. A path that leaves the tree
    leads nowhere. -/
def follow (files : FileTree) (place : List String) : List String → Option ByteArray
  | [] => content? place files
  | part :: rest =>
    if !isDirectory place files then none
    else if part = "." then follow files place rest
    else if part = ".." then
      if place.isEmpty then none else follow files place.dropLast rest
    else follow files (place ++ [part]) rest

/-- The content of the file that a path leads to. A path that ends in a slash
    leads to no file, and neither does one from the root. -/
def read? (files : FileTree) (path : String) : Option ByteArray :=
  if path.startsWith "/" || path.endsWith "/" then none
  else follow files [] (parts path)

end FileTree

namespace Settings

/-- The variable that names the file. -/
def pathVariable : String := "TX_SUBMITTER_CONFIG"

/-- Where the file is if nothing else is said. -/
def usualPath : String := "config/default.toml"

/-- Loads settings from a file. -/
def loadFrom (read : String → Option ByteArray) (environment : String → Option String)
    (path : String) : Except SettingsFault Settings :=
  match (read path).bind fun content => String.fromUTF8? content with
  | some source => ofText environment source
  | none => .error (.missingFile (Text.quotePath path))

/-- Loads settings from the file that the environment names. -/
def load (read : String → Option ByteArray) (environment : String → Option String) :
    Except SettingsFault Settings :=
  loadFrom read environment ((environment pathVariable).getD usualPath)

end Settings

end TxRelay
