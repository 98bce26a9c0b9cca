/-
What can be wrong with a JSON text.  Either the text is no JSON, or it is cut short, or it is
JSON of the wrong content; the last kind tells what was found and what was expected.
-/
import Logbook.Level
import Logbook.Number.Decimal

namespace Logbook.Json

/-- A number as a JSON text gives it.  Whole numbers of 64 bits are exact, the others are
floating point values. -/
inductive Number where
  | natural (n : Nat)
  | negative (n : Nat)
  | real (x : Binary)
  deriving DecidableEq, Repr

/-- What stands where something else was expected. -/
inductive Found where
  | null
  | boolean (b : Bool)
  | number (n : Number)
  | string (s : String)
  | sequence
  | map
  deriving DecidableEq, Repr

namespace Found

def text : Found → String
  | .null => "null"
  | .boolean b => "boolean `" ++ toString b ++ "`"
  | .number (.natural n) => "integer `" ++ toString n ++ "`"
  | .number (.negative n) => "integer `-" ++ toString n ++ "`"
  | .number (.real x) => "floating point `" ++ x.text .double .scientific ++ "`"
  | .string s => "string " ++ Text.quoted s
  | .sequence => "sequence"
  | .map => "map"

end Found

/-- Well-formed JSON of the wrong content. -/
inductive Mistake where
  | wrongType (found : Found) (expected : String)
  | outOfRange (found : Int) (expected : String)
  | wrongLength (length : Nat) (expected : String)
  | missingField (name : String)
  | duplicateField (name : String)
  | noSuchOrdinal (ordinal : Nat)
  | unknownLevel (level : UnknownLevel)
  deriving DecidableEq, Repr

def Mistake.message : Mistake → String
  | .wrongType found expected => "invalid type: " ++ found.text ++ ", expected " ++ expected
  | .outOfRange found expected =>
      "invalid value: integer `" ++ toString found ++ "`, expected " ++ expected
  | .wrongLength length expected =>
      "invalid length " ++ toString length ++ ", expected " ++ expected
  | .missingField name => "missing field `" ++ name ++ "`"
  | .duplicateField name => "duplicate field `" ++ name ++ "`"
  | .noSuchOrdinal ordinal => "invalid log level ordinal " ++ toString ordinal
  | .unknownLevel level => level.message

/-- Why a JSON text was refused. -/
inductive Error where
  | malformed
  | cutShort
  | mistaken (mistake : Mistake)
  deriving DecidableEq, Repr

/-- Where a text stops being JSON.  A value that is only passed over is looked at less closely
than one that is read, so the two may differ. -/
structure Problem where
  read : Error
  skipped : Error
  deriving DecidableEq, Repr

namespace Problem

/-- The text is no JSON however it is looked at. -/
def malformed : Problem := ⟨.malformed, .malformed⟩

/-- The text ends too early. -/
def cutShort : Problem := ⟨.cutShort, .cutShort⟩

/-- The text ends inside a number.  A number that is passed over must be complete. -/
def openNumber : Problem := ⟨.cutShort, .malformed⟩

end Problem

end Logbook.Json
