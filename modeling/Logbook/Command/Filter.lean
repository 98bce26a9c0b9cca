/-
Filters, which decide what of the diagnostics shows.  A filter is a list of directives, and of
the directives that are about an event the most specific one decides.
-/
import Logbook.Command.Directive

namespace Logbook.Command

/-- A list of directives. -/
abbrev Filter := List Directive

namespace Filter

/-- The filter without directives lets errors through. -/
def standard : Filter := [{ verbosity := .error }]

/-- The filter that shows what the command tells about itself. -/
def everything : Filter := [{ verbosity := .debug }]

def ofText? (s : String) : Option Filter := do
  let pieces := (Text.pieces (· == ',') s.toList).filter (!·.isEmpty)
  let directives ← pieces.mapM fun piece => Directive.ofText? (String.ofList piece)
  return if directives.isEmpty then standard else directives

/-- The filter that the environment asks for.  Without one, or with one that cannot be read, all
shows. -/
def ofVariable (value : Option String) : Filter :=
  (value.bind ofText?).getD everything

/-- The directives that are about an event. -/
def covering (filter : Filter) (target : String) (fields : List String) : List Directive :=
  filter.filter (·.covers target fields)

/-- The more specific of two directives, or the later one. -/
def prefer (best : Option Directive) (directive : Directive) : Option Directive :=
  match best with
  | none => some directive
  | some best => if directive.isBelow best then some best else some directive

/-- The directive that decides about an event: the most specific one, and of several the last. -/
def directiveFor? (filter : Filter) (target : String) (fields : List String) :
    Option Directive :=
  (filter.covering target fields).foldl prefer none

/-- An event shows. -/
def shows (filter : Filter) (target : String) (fields : List String) (level : EventLevel) :
    Bool :=
  (filter.directiveFor? target fields).any (·.verbosity.shows level)

end Filter

namespace FilterWitness

example : (Filter.ofVariable (some "warn,nodelog=5,x")).shows "nodelog" [] .debug = true := by
  decide +kernel

example : (Filter.ofVariable (some "")).shows "nodelog" [] .info = false ∧
    (Filter.ofVariable (some "?")).shows "nodelog" [] .debug = true ∧
    (Filter.ofVariable (some "node=off,trace")).shows "nodelog" [] .debug = false := by
  decide +kernel

example : (Filter.ofVariable (some "off,[\x7bnode\x7d]=debug")).shows "nodelog" ["node"] .debug =
      true ∧
    (Filter.ofVariable (some "off,[\x7bnode\x7d]=debug")).shows "nodelog" [] .debug = false := by
  decide +kernel

end FilterWitness

end Logbook.Command
