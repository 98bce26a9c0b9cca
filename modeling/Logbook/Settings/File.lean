/-
Finding the file of settings, among files of some formats.  A path may leave out the extension of
its file, also when it ends in a separator, unless its last name has an extension already; then the
extensions are tried in the order in which the formats are given.  A file that is there under
exactly the path given is the only candidate, and it counts only when its extension is that of one
of the formats.
-/
import Logbook.Settings.Source
import Logbook.Text.Utf8

namespace Logbook.Settings

/-- The way to a file. -/
structure FilePath where
  absolute : Bool
  names : List String
  /-- The path ends in a separator, so it can only mean a directory. -/
  ofDirectory : Bool
  deriving DecidableEq, Repr

namespace FilePath

/-- Reads a path.  Empty names and single points do not count. -/
def ofText (path : String) : FilePath :=
  let pieces := Text.pieces (· == '/') path.toList
  let isNothing (piece : List Char) : Bool := piece.isEmpty || piece == ['.']
  { absolute := path.toList.head? == some '/'
    names := (pieces.filter (!isNothing ·)).map String.ofList
    ofDirectory := isNothing (pieces.getLastD []) }

def text (path : FilePath) : String :=
  (if path.absolute then "/" else "") ++ String.intercalate "/" path.names

/-- The extension of a name: what follows its last point, unless that is its first character. -/
def extension? (name : String) : Option String :=
  let s := name.toList.reverse
  let extension := s.takeWhile (· != '.')
  match s.dropWhile (· != '.') with
  | _ :: _ :: _ => some (String.ofList extension.reverse)
  | _ => none

/-- The path with more text behind its last name, if it has a last name. -/
def extend? (path : FilePath) (more : String) : Option FilePath := do
  let name ← path.names.getLast?
  if name = ".." then none
  else some { path with names := path.names.dropLast ++ [name ++ more], ofDirectory := false }

/-- The extension of the last name of a path. -/
def lastExtension? (path : FilePath) : Option String := do
  extension? (← path.names.getLast?)

/-- The path can mean nothing but a directory whose name has an extension. -/
def isNamedDirectory (path : FilePath) : Bool :=
  path.ofDirectory && path.lastExtension?.isSome

section Formats

variable (formats : List Format) (path : FilePath)

/-- The paths that stand for a path without its extension, with their formats. -/
def completions : List (FilePath × Format) :=
  if path.isNamedDirectory then []
  else formats.flatMap fun format => format.extensions.filterMap fun extension =>
    (path.extend? ("." ++ extension)).map fun path => (path, format)

/-- The format of the file at a path, if its extension tells it. -/
def format? : Option Format := do
  Format.ofExtension? formats (← path.lastExtension?)

/-- All paths that have to be looked at to find a file. -/
def candidates : List FilePath :=
  path :: (path.completions formats).map Prod.fst

/-- The file that a path means, given which files there are. -/
def locate (isFile : FilePath → Bool) : Option (FilePath × Format) :=
  if !path.ofDirectory && isFile path then (path.format? formats).map (path, ·)
  else (path.completions formats).find? (isFile ·.1)

end Formats

end FilePath

/-- Which files there are, and the bytes of those that can be read. -/
structure Files where
  isFile : FilePath → Bool
  bytes? : FilePath → Option (List UInt8)

/-- Reads the file that a path means, if there is one that can be read, and the environment.  What
is no text in the file is marked as such. -/
def loadFrom (formats : List Format) (files : Files) (path : String)
    (environment : List (String × String)) : Except Problem Settings :=
  let file := do
    let (found, format) ← (FilePath.ofText path).locate formats files.isFile
    return { name := found.text, format, text := Text.ofBytes (← files.bytes? found) : SourceFile }
  load file environment

namespace FileWitness

/-- Two files, one of them of no known format. -/
def isFile (path : FilePath) : Bool :=
  path.text == "c.conf" || path.text == "d.conf.toml"

example : ((FilePath.ofText "./c.conf").locate Format.known isFile).isNone := by decide +kernel

example : ((FilePath.ofText "d.conf").locate Format.known isFile).map (·.1.text) =
    some "d.conf.toml" := by
  decide +kernel

example : ((FilePath.ofText "d.conf/").locate Format.known isFile).isNone = true ∧
    ((FilePath.ofText "e/./.").candidates Format.known).map (·.text) =
      ["e", "e.toml", "e.json"] := by
  decide +kernel

/-- A format may have more extensions than one. -/
example :
    ((FilePath.ofText "f").locate [⟨["yaml", "yml"], fun _ _ => none⟩]
      (·.text == "f.yml")).map (·.1.text) = some "f.yml" := by
  decide +kernel

example : FilePath.extension? ".toml" = none ∧ FilePath.extension? "a." = some "" := by
  decide +kernel

end FileWitness

end Logbook.Settings
