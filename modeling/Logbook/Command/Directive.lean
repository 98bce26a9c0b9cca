/-
Directives, which say how much of the diagnostics shows: a level, a target, or a level for a
target, perhaps only for events with some field, or for what happens inside spans.

The shape of a directive is found in the text without the blanks around it, but its parts are
cut at the same positions out of the whole text.  So blanks behind a target belong to it, and
blanks in front move every cut.

A directive may ask for the value of a field.  That speaks of spans, and the command opens none,
so what a pattern for the value matches is of no use; but a directive with a pattern that cannot be
run cannot be read.
-/
import Logbook.Event
import Logbook.Number.Reading
import Logbook.Pattern.Feasible
import Logbook.Settings.Conversion
import Logbook.Text.Alphanumeric
import Logbook.Text.Pieces
import Logbook.Text.Slice

namespace Logbook.Command

/-- How much a directive lets through: every event up to a rank, counted from the gravest. -/
inductive Verbosity where
  | off
  | error
  | warn
  | info
  | debug
  | trace
  deriving DecidableEq, Repr

namespace Verbosity

def ofNumber? : Nat → Option Verbosity
  | 0 => some .off
  | 1 => some .error
  | 2 => some .warn
  | 3 => some .info
  | 4 => some .debug
  | 5 => some .trace
  | _ => none

/-- The verbosity with a name, in any mixture of ASCII cases. -/
def ofName? (name : String) : Option Verbosity :=
  match Text.asciiLower name with
  | "off" => some .off
  | "error" => some .error
  | "warn" => some .warn
  | "info" => some .info
  | "debug" => some .debug
  | "trace" => some .trace
  | _ => none

def ofText? (s : String) : Option Verbosity :=
  (Settings.Conversion.decimal? s).bind ofNumber? <|> ofName? s

/-- Events of a severity are let through. -/
def shows (verbosity : Verbosity) (level : EventLevel) : Bool :=
  match verbosity, level with
  | .off, _ => false
  | .error, .error => true
  | .warn, .error => true
  | .warn, .warn => true
  | .info, .debug => false
  | .info, _ => true
  | .debug, _ => true
  | .trace, _ => true
  | _, _ => false

end Verbosity

/-- A directive for events of a target, for all that have a field, or for spans only. -/
structure Directive where
  target : Option String := none
  field : Option String := none
  verbosity : Verbosity := .trace
  ofSpans : Bool := false
  deriving DecidableEq, Repr

namespace Directive

/-- A character that a target may start with. -/
def mayStart (c : Char) : Bool :=
  c == '-' || c == ':' || c == '_' || Text.isAlphanumeric c

/-- A directive without a verbosity of its own: a verbosity or a target. -/
def ofWord (word : String) : Directive :=
  match Verbosity.ofText? word with
  | some verbosity => { verbosity }
  | none => { target := some word }

/-- The value of a field may be asked for, as a number or by a pattern. -/
def isFieldValue (value : List Char) : Bool :=
  (Binary.ofText? .double (String.ofList value)).isSome || Pattern.accepts value

/-- Reads a field: its name, and whether a value is asked for. -/
def field? (s : List Char) : Option (String × Bool) :=
  if s.isEmpty then none
  else match Text.pieces (· == '=') s with
    | name :: value :: _ => if isFieldValue value then some (String.ofList name, true) else none
    | _ => some (String.ofList s, false)

/-- The text behind a position, if it is the text of a verbosity.  An empty one stands for the
greatest. -/
def verbosityAt? (start : Nat) (whole : List Char) : Option Verbosity := do
  let s ← Text.suffixAt? start whole
  if s.isEmpty then some .trace else Verbosity.ofText? (String.ofList s)

/-- The verbosity behind the brackets of a directive, given what follows them and the position of
that. -/
def verbosityBehind? (start : Nat) (whole : List Char) : List Char → Option Verbosity
  | [] => some .trace
  | '=' :: _ => verbosityAt? (start + 1) whole
  | _ => none

/-- Reads what stands in the brackets of a directive and behind them, given the text behind the
opening bracket and its position. -/
def ofBrackets? (target : Option String) (start : Nat) (whole s : List Char) :
    Option Directive :=
  let isBorder (c : Char) : Bool := c == ']' || c == '\x7b'
  let span := s.takeWhile (!isBorder ·)
  let next := start + Text.byteLength span + 1
  match s.dropWhile (!isBorder ·) with
  | [] => none
  | ']' :: behind => do
      return { target, verbosity := ← verbosityBehind? next whole behind, ofSpans := true }
  | _ :: rest => do
      let field := rest.takeWhile (· != '\x7d')
      let length := Text.byteLength field
      match rest.dropWhile (· != '\x7d') with
      | _ :: ']' :: behind =>
          let (name, hasValue) ← field? (← Text.slice? next length whole)
          let verbosity ← verbosityBehind? (next + length + 2) whole behind
          return { target, field := some name, verbosity, ofSpans := hasValue || !span.isEmpty }
      | _ => none

def ofText? (text : String) : Option Directive := do
  let whole := text.toList
  let s := Text.trimChars whole
  let isBorder (c : Char) : Bool := c == '=' || c == '['
  let head := s.takeWhile (!isBorder ·)
  let length := Text.byteLength head
  let target? := (Text.slice? 0 length whole).map String.ofList
  let startsWell := head.head?.any mayStart
  match s.dropWhile (!isBorder ·) with
  | [] => if startsWell then some (ofWord text) else none
  | '=' :: _ =>
      if startsWell then
        return { target := ← target?, verbosity := ← verbosityAt? (length + 1) whole }
      else none
  | _ :: rest =>
      if head.isEmpty then ofBrackets? none 1 whole rest
      else if startsWell then ofBrackets? (some (← target?)) (length + 1) whole rest
      else none

/-- The directive is about events of a target that have given fields, outside all spans. -/
def covers (directive : Directive) (target : String) (fields : List String) : Bool :=
  !directive.ofSpans &&
    directive.target.all (fun start => start.toList.isPrefixOf target.toList) &&
    directive.field.all fields.contains

/-- How specific the target of a directive is. -/
def reach (directive : Directive) : Nat :=
  match directive.target with
  | none => 0
  | some start => start.utf8ByteSize + 1

/-- A directive is less specific than another: it has a shorter target, or one as long and no
field, or a field that comes earlier in the order of names. -/
def isBelow (a b : Directive) : Bool :=
  decide (a.reach < b.reach) ||
    (decide (a.reach = b.reach) && decide (a.field.getD "" < b.field.getD ""))

end Directive

namespace DirectiveWitness

example : Directive.ofText? "node=5" =
    some { target := some "node", verbosity := .trace } := by decide +kernel

example : Directive.ofText? "x[\x7bnode\x7d]=warn" =
    some { target := some "x", field := some "node", verbosity := .warn } := by decide +kernel

example : (Directive.ofText? "[s]").map (·.ofSpans) = some true ∧
    (Directive.ofText? "[\x7bnode=1\x7d]").map (·.ofSpans) = some true := by decide +kernel

example : Directive.ofText? "[\x7b\x7d]" = none ∧ Directive.ofText? "[s" = none ∧
    Directive.ofText? "\u20ac=off" = none ∧ Directive.ofText? "x=\x7d" = none := by
  decide +kernel

/-- A blank in front is no part of the shape, but it moves the cuts. -/
example : Directive.ofText? " debug" = some { target := some " debug" } ∧
    Directive.ofText? " node=off" = none := by decide +kernel

end DirectiveWitness

end Logbook.Command
