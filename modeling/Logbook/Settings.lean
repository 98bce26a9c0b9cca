/-
Settings of a logger.  Each setting has a default, and the sections of a source set some of them.
-/
import Logbook.Palette
import Logbook.Settings.Conversion

namespace Logbook

/-- The name of a logger that was given none. -/
def fallbackName : String := "default"

/-- The settings of the logger itself. -/
structure LoggerSettings where
  nodeName : String := fallbackName
  minLevel : Level := .debug
  localOutput : Bool := true
  sequenceStart : UInt32 := 0
  deriving DecidableEq, Repr

/-- The settings of its console. -/
structure ConsoleSettings where
  color : Bool := true
  colors : PerLevel String := Palette.defaultNames
  deriving DecidableEq, Repr

structure Settings where
  logger : LoggerSettings := {}
  console : ConsoleSettings := {}
  deriving DecidableEq, Repr

/-- The palette that the settings ask for. -/
def Settings.palette (settings : Settings) : Palette :=
  if settings.console.color then .ofNames settings.console.colors else .plain

open Settings (Section Conversion Node)

def LoggerSettings.layout : Section LoggerSettings where
  name := "LoggerSection"
  default := {}
  fields := [
    .of "node_name" Conversion.text fun s nodeName => { s with nodeName },
    .of "min_level" Conversion.level fun s minLevel => { s with minLevel },
    .of "local_output" Conversion.boolean fun s localOutput => { s with localOutput },
    .of "sequence_start" Conversion.word fun s sequenceStart => { s with sequenceStart }]

def Palette.layout : Section (PerLevel String) where
  name := "ColorsConfig"
  default := defaultNames
  fields := [
    .of "debug" Conversion.text fun s debug => { s with debug },
    .of "info" Conversion.text fun s info => { s with info },
    .of "warn" Conversion.text fun s warn => { s with warn },
    .of "error" Conversion.text fun s error => { s with error },
    .of "fatal" Conversion.text fun s fatal => { s with fatal }]

def ConsoleSettings.layout : Section ConsoleSettings where
  name := "ConsoleConfig"
  default := {}
  fields := [
    .of "color" Conversion.boolean fun s color => { s with color },
    .of "colors" Palette.layout.read fun s colors => { s with colors }]

namespace Settings

def layout : Section Settings where
  name := "LoggerConfig"
  default := {}
  fields := [
    .of "logger" LoggerSettings.layout.read fun s logger => { s with logger },
    .of "console" ConsoleSettings.layout.read fun s console => { s with console }]

def ofMembers (members : Members Node) : Except Problem Settings :=
  layout.read [] (.table .unnamed members)

/-- The tree that all sources are laid over.  It leaves the name of the node to the default of
the setting, which is the name of the fallback logger. -/
def builtIn : Members Node :=
  let text (s : String) : Node := .leaf .unnamed (.text s)
  let colors := Node.table .unnamed [("debug", text "cyan"), ("info", text "green"),
    ("warn", text "yellow"), ("error", text "red"), ("fatal", text "magenta")]
  [("logger", .table .unnamed [("min_level", text "debug"),
      ("local_output", .leaf .unnamed (.boolean true)),
      ("sequence_start", .leaf .unnamed (.integer 0))]),
    ("console", .table .unnamed [("color", .leaf .unnamed (.boolean true)), ("colors", colors)])]

/-- Reads sources laid over the built-in tree, the last one uppermost. -/
def ofSources (sources : List (List (String × Node))) : Except Problem Settings :=
  ofMembers (sources.foldl Node.layer builtIn)

end Settings

namespace SettingsWitness

example : Settings.ofSources [] = .ok {} := by cbv

example : (Settings.ofSources [[("logger[1]", .leaf .environment (.text "loud"))]]) =
    .error (.unconvertible (.leaf .null) .text [.index 0, .key "logger"] .unnamed) := by cbv

end SettingsWitness

end Logbook
