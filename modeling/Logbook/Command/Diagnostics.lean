/-
Diagnostics of the command: lines on the standard error stream about the command itself.  A
filter decides which of them show.
-/
import Logbook.Command.Filter
import Logbook.Text.Layout

namespace Logbook.Command

/-- What the command tells about itself. -/
inductive Diagnostic where
  | enabled
  | ready (node : String) (minLevel : Level)
  | closed (records : UInt32)
  deriving DecidableEq, Repr

namespace Diagnostic

def target : String := "nodelog"

def level : Diagnostic → EventLevel
  | .enabled => .info
  | .ready _ _ => .debug
  | .closed _ => .debug

def message : Diagnostic → String
  | .enabled => "nodelog diagnostics enabled"
  | .ready _ _ => "logger ready"
  | .closed _ => "stdin closed"

/-- What a diagnostic tells besides its message: names and values. -/
def details : Diagnostic → List (String × String)
  | .enabled => []
  | .ready node minLevel => [("node", node), ("min_level", minLevel.name)]
  | .closed records => [("records", toString records.toNat)]

/-- The names of the fields of a diagnostic, one of which holds the message. -/
def fields (d : Diagnostic) : List String :=
  "message" :: d.details.map Prod.fst

/-- The message of a diagnostic and its details. -/
def text (d : Diagnostic) : String :=
  " ".intercalate (d.message :: d.details.map fun (name, value) => name ++ "=" ++ value)

/-- The line of a diagnostic, given the text of its time. -/
def line (time : String) (d : Diagnostic) : String :=
  time ++ " " ++ Text.Layout.apply { alignment := .right, width := 5 } d.level.name ++ " " ++
    target ++ ": " ++ d.text ++ "\n"

/-- A filter lets a diagnostic through. -/
def isShownBy (d : Diagnostic) (filter : Filter) : Bool :=
  filter.shows target d.fields d.level

end Diagnostic

namespace DiagnosticsWitness

example : Diagnostic.line "0" (.ready "n" .warn) =
    "0 DEBUG nodelog: logger ready node=n min_level=WARN\n" := by decide +kernel

end DiagnosticsWitness

end Logbook.Command
