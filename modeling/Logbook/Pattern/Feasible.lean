/-
Patterns that can be run.  The machine that runs patterns walks over bytes and must never stop
inside a character, and it has no tables of the properties of characters.  So with the flag for
all scripts it can neither ignore case nor tell words, and without that flag it can have nothing
that holds bytes past ASCII.
-/
import Logbook.Pattern.Reading

namespace Logbook.Pattern

/-- The flags that a machine has to know of. -/
structure Modes where
  unicode : Bool := true
  ignoreCase : Bool := false
  deriving DecidableEq, Repr

namespace Modes

/-- The flags after a change. -/
def apply (change : FlagChange) (modes : Modes) : Modes where
  unicode := change.apply .unicode modes.unicode
  ignoreCase := change.apply .ignoreCase modes.ignoreCase

/-- The flags inside a group. -/
def inside (kind : GroupKind) (modes : Modes) : Modes :=
  match kind with
  | .flagged change => modes.apply change
  | _ => modes

/-- A character by itself can be run.  Without the flag for all scripts a number of two digits is
that of a byte. -/
def runsLiteral (modes : Modes) (literal : Literal) : Bool :=
  if modes.unicode then !modes.ignoreCase
  else !literal.isByte || decide (literal.char.toNat < 0x80)

/-- A character of a set can be run. -/
def runsMember (modes : Modes) (literal : Literal) : Bool :=
  if modes.unicode then !modes.ignoreCase else decide (literal.char.toNat < 0x80)

/-- A shorthand can be run. -/
def runsShorthand (modes : Modes) (negated : Bool) : Bool :=
  !modes.unicode && !negated

/-- A set with a name can be run. -/
def runsAscii (modes : Modes) (negated : Bool) : Bool :=
  if modes.unicode then !modes.ignoreCase else !negated

/-- Brackets around a set that can be run can be run. -/
def runsBrackets (modes : Modes) (negated : Bool) : Bool :=
  modes.unicode || !negated

end Modes

mutual

/-- A set can be run. -/
def CharSet.isFeasible (modes : Modes) : CharSet → Bool
  | .empty => true
  | .literal one => modes.runsMember one
  | .range first last => modes.runsMember first && modes.runsMember last
  | .ascii _ negated => modes.runsAscii negated
  | .shorthand _ negated => modes.runsShorthand negated
  | .brackets negated inner => modes.runsBrackets negated && inner.isFeasible modes
  | .union parts => CharSet.areFeasible modes parts
  | .combined _ left right => left.isFeasible modes && right.isFeasible modes

/-- Some sets can be run. -/
def CharSet.areFeasible (modes : Modes) : List CharSet → Bool
  | [] => true
  | part :: rest => part.isFeasible modes && CharSet.areFeasible modes rest

end

/-- The flags if a condition holds. -/
def Modes.whenever (holds : Bool) (modes : Modes) : Option Modes :=
  if holds then some modes else none

mutual

/-- The flags behind a pattern, if it can be run. -/
def modesBehind? (modes : Modes) : Pattern → Option Modes
  | .empty => some modes
  | .flags change => some (modes.apply change)
  | .literal one => modes.whenever (modes.runsLiteral one)
  | .dot => modes.whenever modes.unicode
  | .anchor _ => some modes
  | .wordEdge _ => modes.whenever !modes.unicode
  | .shorthand _ negated => modes.whenever (modes.runsShorthand negated)
  | .brackets negated inner =>
      modes.whenever (modes.runsBrackets negated && inner.isFeasible modes)
  | .repeated _ _ part => part.modesBehind? modes
  | .group kind part => (part.modesBehind? (modes.inside kind)).map fun _ => modes
  | .sequence parts => modesBehindAll? modes parts
  | .choice branches => modesBehindAll? modes branches

/-- The flags behind some patterns, if they can be run. -/
def modesBehindAll? (modes : Modes) : List Pattern → Option Modes
  | [] => some modes
  | part :: rest => do modesBehindAll? (← part.modesBehind? modes) rest

end

/-- A pattern can be run. -/
def isFeasible (pattern : Pattern) : Bool :=
  (pattern.modesBehind? {}).isSome

/-- A text is a pattern that can be run. -/
def accepts (s : List Char) : Bool :=
  (ofText? s).any isFeasible

namespace FeasibleWitness

example : accepts ".*".toList = true ∧ accepts "[^a]".toList = true ∧
    accepts "\\x41".toList = true ∧ accepts "(?i)".toList = true ∧
    accepts "(?i)[&&]".toList = true := by decide +kernel

example : accepts "\\d".toList = false ∧ accepts "[\\D]".toList = false ∧
    accepts "\\b".toList = false ∧ accepts "(?i)a".toList = false ∧
    accepts "(?i)[a]".toList = false := by decide +kernel

example : accepts "(?-u)\\d\\b".toList = true ∧ accepts "(?-u)[\\w]".toList = true ∧
    accepts "(?i-u)a".toList = true ∧ accepts "(?-u)\u00e9".toList = true := by decide +kernel

example : accepts "(?-u).".toList = false ∧ accepts "(?-u)[^a]".toList = false ∧
    accepts "(?-u)\\D".toList = false ∧ accepts "(?-u)\\xff".toList = false ∧
    accepts "(?-u)[\u00e9]".toList = false := by decide +kernel

/-- A flag lasts to the end of its group, through all branches. -/
example : accepts "a|(?i:|(?-i)b)c".toList = true ∧ accepts "(|(?i))a".toList = true ∧
    accepts "(?i)|a".toList = false := by decide +kernel

end FeasibleWitness

end Logbook.Pattern
