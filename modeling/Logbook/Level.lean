/-
Severity levels.  A level is both the threshold of a logger and the mark on every record.  Its
ordinal is part of the record's wire form, so the order of the constructors is fixed.
-/
import Logbook.Text.Blank
import Logbook.Text.Quoted

namespace Logbook

/-- The severities, from the least to the most grave. -/
inductive Level where
  | debug
  | info
  | warn
  | error
  | fatal
  deriving DecidableEq, Repr, Inhabited

namespace Level

/-- Every level, the least first. -/
def all : List Level :=
  [.debug, .info, .warn, .error, .fatal]

/-- The number that stands for a level on the wire. -/
def ordinal : Level → Nat
  | .debug => 0
  | .info => 1
  | .warn => 2
  | .error => 3
  | .fatal => 4

def ofOrdinal? : Nat → Option Level
  | 0 => some .debug
  | 1 => some .info
  | 2 => some .warn
  | 3 => some .error
  | 4 => some .fatal
  | _ => none

/-- The name that a level shows. -/
def name : Level → String
  | .debug => "DEBUG"
  | .info => "INFO"
  | .warn => "WARN"
  | .error => "ERROR"
  | .fatal => "FATAL"

/-- The name behind an ordinal, for ordinals of any origin. -/
def nameOfOrdinal (n : Nat) : String :=
  ((ofOrdinal? n).map name).getD "UNKNOWN"

/-- The name of a level as a variant of its type, as it shows in descriptions of other values. -/
def variantName : Level → String
  | .debug => "Debug"
  | .info => "Info"
  | .warn => "Warn"
  | .error => "Error"
  | .fatal => "Fatal"

instance : LE Level := ⟨fun a b => a.ordinal ≤ b.ordinal⟩

instance : LT Level := ⟨fun a b => a.ordinal < b.ordinal⟩

instance (a b : Level) : Decidable (a ≤ b) :=
  inferInstanceAs (Decidable (a.ordinal ≤ b.ordinal))

instance (a b : Level) : Decidable (a < b) :=
  inferInstanceAs (Decidable (a.ordinal < b.ordinal))

theorem ofOrdinal?_ordinal (level : Level) : ofOrdinal? level.ordinal = some level := by
  cases level <;> rfl

theorem ordinal_of_ofOrdinal? {n : Nat} {level : Level} (h : ofOrdinal? n = some level) :
    level.ordinal = n := by
  unfold ofOrdinal? at h
  split at h <;> simp_all [ordinal] <;> subst h <;> rfl

/-- The level with a name that is already folded. -/
def ofFoldedName? : String → Option Level
  | "debug" => some .debug
  | "info" => some .info
  | "warn" => some .warn
  | "warning" => some .warn
  | "error" => some .error
  | "fatal" => some .fatal
  | _ => none

end Level

/-- The text given where a level was expected, exactly as it came. -/
structure UnknownLevel where
  input : String
  deriving DecidableEq, Repr

/-- The complaint about a text that names no level. -/
def UnknownLevel.message (e : UnknownLevel) : String :=
  "unknown log level " ++ Text.quoted e.input ++ " (expected debug, info, warn, error or fatal)"

/-- Reads a level name between any blanks and in any mixture of ASCII cases. -/
def Level.parse (s : String) : Except UnknownLevel Level :=
  match Level.ofFoldedName? (Text.foldName s) with
  | some level => .ok level
  | none => .error ⟨s⟩

namespace LevelWitness

example : Level.parse " Warning\u3000" = .ok .warn := by cbv

example : Level.parse "loud " = .error ⟨"loud "⟩ := by cbv

example : Level.all.map (fun level => Level.parse level.name) = Level.all.map .ok := by cbv

end LevelWitness

end Logbook
