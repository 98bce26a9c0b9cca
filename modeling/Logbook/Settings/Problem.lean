/-
What can be wrong with settings.  A source may be no text of its format; a value may not convert
to what a setting needs; and a converted value may be refused by the setting itself.  Only the
second complaint tells where the value came from.
-/
import Logbook.Level
import Logbook.Number.Decimal
import Logbook.Settings.Node

namespace Logbook.Settings

/-- The way to a value, as complaints show it; the last step comes first. -/
abbrev Place := List Step

namespace Place

/-- The text of a way: keys with points between them, positions in brackets. -/
def text : Place → String
  | [] => ""
  | [.key name] => name
  | .key name :: above => text above ++ "." ++ name
  | .index i :: above => text above ++ "[" ++ toString i ++ "]"

end Place

/-- A description of where a value came from, behind a complaint about it. -/
def Origin.suffix : Origin → String
  | .unnamed => ""
  | .file name => " in " ++ name
  | .environment => " in the environment"

/-- What stands where something else was expected. -/
inductive Found where
  | leaf (value : Leaf)
  | list
  | table
  deriving DecidableEq, Repr

/-- A node without its parts. -/
def Node.found : Node → Found
  | .leaf _ value => .leaf value
  | .list _ _ => .list
  | .table _ _ => .table

namespace Found

/-- A description with the size of numbers, for values that do not convert. -/
def sizedText : Found → String
  | .leaf .null => "unit value"
  | .leaf (.boolean b) => "boolean `" ++ toString b ++ "`"
  | .leaf (.integer i) => "64-bit integer `" ++ toString i ++ "`"
  | .leaf (.natural n) => "64-bit unsigned integer `" ++ toString n ++ "`"
  | .leaf (.real x) => "floating point `" ++ x.text .double .bare ++ "`"
  | .leaf (.text s) => "string " ++ Text.quoted s
  | .list => "sequence"
  | .table => "map"

/-- A description for values in the place of a section. -/
def plainText : Found → String
  | .leaf .null => "unit value"
  | .leaf (.boolean b) => "boolean `" ++ toString b ++ "`"
  | .leaf (.integer i) => "integer `" ++ toString i ++ "`"
  | .leaf (.natural n) => "integer `" ++ toString n ++ "`"
  | .leaf (.real x) => "floating point `" ++ x.text .double .pointedStyle ++ "`"
  | .leaf (.text s) => "string " ++ Text.quoted s
  | .list => "sequence"
  | .table => "map"

end Found

/-- What a setting needs. -/
inductive Expected where
  | boolean
  | integer
  | natural
  | word
  | text
  deriving DecidableEq, Repr

/-- A description of what a setting needs. -/
def Expected.description : Expected → String
  | .boolean => "a boolean"
  | .integer => "an integer"
  | .natural => "an unsigned 64 bit or less integer"
  | .word => "an unsigned 32 bit integer"
  | .text => "a string"

/-- Why a setting refuses a value. -/
inductive Refusal where
  | unknownLevel (level : UnknownLevel)
  | noSection (found : Found) (name : String)
  deriving DecidableEq, Repr

/-- The reason in words. -/
def Refusal.text : Refusal → String
  | .unknownLevel level => level.message
  | .noSection found name => "invalid type: " ++ found.plainText ++ ", expected struct " ++ name

/-- What is wrong with settings. -/
inductive Problem where
  | unreadable
  | unconvertible (found : Found) (expected : Expected) (place : Place) (origin : Origin)
  | refused (reason : Refusal) (place : Place)
  deriving DecidableEq, Repr

/-- The complaint, unless a source was unreadable. -/
def Problem.message? : Problem → Option String
  | .unreadable => none
  | .unconvertible found expected place origin =>
      some ("invalid type: " ++ found.sizedText ++ ", expected " ++ expected.description ++
        " for key `" ++ place.text ++ "`" ++ origin.suffix)
  | .refused reason place => some (reason.text ++ " for key `" ++ place.text ++ "`")

namespace ProblemWitness

example : (Problem.unconvertible (.leaf (.text "2")) .boolean [.index 2, .key "logger"]
    .environment).message? = some
      "invalid type: string \"2\", expected a boolean for key `logger[2]` in the environment" := by
  decide +kernel

example : Place.text [.index 0, .key "colors", .key "console"] = "console.colors[0]" := by
  decide +kernel

end ProblemWitness

end Logbook.Settings
