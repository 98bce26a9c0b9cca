/-
Sources of settings: documents in some format, and the environment.  Every value of a source
remembers the source.  A format is what its reader makes of a text; those of TOML and JSON are
defined here, and files may be in others too.
-/
import Logbook.Json.Tree
import Logbook.Settings
import Logbook.Text.Lower
import Logbook.Toml.Table

namespace Logbook.Settings

/-- A word of a TOML document as a value. -/
def Leaf.ofScalar : Toml.Scalar → Leaf
  | .string s => .text s
  | .integer i => .integer i
  | .real x => .real x
  | .boolean b => .boolean b
  | .moment m => .text m.text

namespace Node

variable (origin : Origin)

mutual

def ofToml : Toml.Value → Node
  | .scalar s => .leaf origin (.ofScalar s)
  | .array items => .list origin (ofTomlItems items)
  | .entries tables => .list origin (ofTomlTables tables).reverse
  | .table _ members => .table origin (ofTomlMembers members)

def ofTomlItems : List Toml.Value → List Node
  | [] => []
  | value :: rest => ofToml value :: ofTomlItems rest

/-- The tables of an array of tables. -/
def ofTomlTables : List (Toml.TableKind × List (String × Toml.Value)) → List Node
  | [] => []
  | (_, members) :: rest => .table origin (ofTomlMembers members) :: ofTomlTables rest

def ofTomlMembers : List (String × Toml.Value) → Members Node
  | [] => []
  | (key, value) :: rest => (key, ofToml value) :: ofTomlMembers rest

end

/-- A number of a JSON document as a value. -/
def leafOfNumber : Json.Number → Leaf
  | .natural n => if n < 0x8000000000000000 then .integer n else .natural n
  | .negative n => .integer (-n)
  | .real x => .real x

mutual

/-- A value of a JSON document, unless it is nested deeper than `room`. -/
def ofJson? (room : Nat) : Json.Tree → Option Node
  | .null => some (.leaf origin .null)
  | .boolean b => some (.leaf origin (.boolean b))
  | .number n => n.value.toOption.map fun n => .leaf origin (leafOfNumber n)
  | .string s => s.toOption.map fun s => .leaf origin (.text (String.ofList s))
  | .array items .closed =>
      if room = 0 then none else (ofJsonItems? (room - 1) items).map (.list origin)
  | .object members .closed =>
      if room = 0 then none
      else (ofJsonMembers? (room - 1) members).map (.table origin <| Members.ofList ·)
  | _ => none

def ofJsonItems? (room : Nat) : List Json.Tree → Option (List Node)
  | [] => some []
  | tree :: rest => do
      let node ← ofJson? room tree
      return node :: (← ofJsonItems? room rest)

/-- The members of an object.  Of members with one key the last counts. -/
def ofJsonMembers? (room : Nat) : List (Json.StringText × Json.Tree) →
    Option (List (String × Node))
  | [] => some []
  | (key, tree) :: rest => do
      let key ← key.toOption
      let node ← ofJson? room tree
      return (String.ofList key, node) :: (← ofJsonMembers? room rest)

end

end Node

/-- JSON values of a source may be nested this deep. -/
def jsonDepth : Nat := 127

/-- A format of documents: the extensions of its files, and how a text is read.  Every value
remembers the origin. -/
structure Format where
  extensions : List String
  read? : Origin → String → Option (Members Node)

namespace Format

def toml : Format where
  extensions := ["toml"]
  read? origin text := do
    let (_, members) ← Toml.Table.ofText? text
    return Node.ofTomlMembers origin members

def json : Format where
  extensions := ["json"]
  read? origin text :=
    let document := Json.Document.ofText text
    match document.surplus, Node.ofJson? origin jsonDepth document.root with
    | false, some (.table _ members) => some members
    | _, _ => none

/-- The formats whose documents can be read here. -/
def known : List Format := [toml, json]

/-- The first of some formats that has files with an extension. -/
def ofExtension? (formats : List Format) (extension : String) : Option Format :=
  formats.find? (·.extensions.contains extension)

end Format

def readDocument (format : Format) (origin : Origin) (text : String) :
    Except Problem (Members Node) :=
  match format.read? origin text with
  | some members => .ok members
  | none => .error .unreadable

theorem readDocument_eq_ok_iff {format : Format} {origin : Origin} {text : String}
    {members : Members Node} :
    readDocument format origin text = .ok members ↔ format.read? origin text = some members := by
  unfold readDocument
  cases format.read? origin text <;> simp

/-- A file of settings. -/
structure SourceFile where
  name : String
  format : Format
  text : String

/-- Reads a file.  A mark of the encoding in front of its text does not count. -/
def SourceFile.members (file : SourceFile) : Except Problem (Members Node) :=
  readDocument file.format (.file file.name) (String.ofList (Text.dropMark file.text.toList))

namespace Environment

/-- What the names of settings in the environment start with, in lower case. -/
def nameStart : List Char := "nodelog_".toList

/-- The text with a point for every two underscores in a row. -/
def pointed : List Char → List Char
  | '_' :: '_' :: rest => '.' :: pointed rest
  | c :: rest => c :: pointed rest
  | [] => []

/-- The key that a variable sets, if it sets any. -/
def key? (name : String) : Option String :=
  let folded := (Text.lower name).toList
  if nameStart.isPrefixOf folded then
    some (String.ofList (pointed (folded.drop nameStart.length)))
  else none

/-- The settings of the environment.  Every value is a text. -/
def members (environment : List (String × String)) : List (String × Node) :=
  environment.filterMap fun (name, value) =>
    (key? name).map fun key => (key, .leaf .environment (.text value))

end Environment

/-- Reads a TOML document laid over the built-in settings. -/
def ofToml (text : String) : Except Problem Settings := do
  ofSources [← readDocument .toml .unnamed text]

/-- Reads a file, if there is one, and the environment, laid over the built-in settings. -/
def load (file : Option SourceFile) (environment : List (String × String)) :
    Except Problem Settings := do
  let members ← match file with
    | some file => file.members
    | none => .ok []
  ofSources [members, Environment.members environment]

namespace SourceWitness

example : Environment.key? "NodeLog_Logger___NODE__NAME" = some "logger._node.name" := by cbv

example : (ofToml "logger.min_level = ' FATAL '").toOption.map (·.logger.minLevel) =
    some .fatal := by cbv

example : (load (some ⟨"a.json", .json, "\x7b\"console\":\x7b\"color\":null\x7d\x7d"⟩)
    [("NODELOG_CONSOLE__COLOR", "off")]).toOption.map (·.palette) = some .plain := by cbv

end SourceWitness

end Logbook.Settings
