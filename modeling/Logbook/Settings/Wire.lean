/-
Settings as JSON.  Here every field has exactly its own type, and a field that is not given has
its default; nothing is laid over anything.
-/
import Logbook.Json.Shape
import Logbook.Settings

namespace Logbook

open Json

namespace LoggerSettings

/-- The fields of the logger's section, as far as they are known. -/
structure Parts where
  nodeName : Option String := none
  minLevel : Option Level := none
  localOutput : Option Bool := none
  sequenceStart : Option UInt32 := none

def shape : Shape Parts LoggerSettings where
  name := "LoggerSection"
  empty := {}
  fields := [
    .of "node_name" Parts.nodeName (fun parts nodeName => { parts with nodeName }) Reader.text,
    .of "min_level" Parts.minLevel (fun parts minLevel => { parts with minLevel })
      Reader.levelName,
    .of "local_output" Parts.localOutput (fun parts localOutput => { parts with localOutput })
      Reader.boolean,
    .of "sequence_start" Parts.sequenceStart
      (fun parts sequenceStart => { parts with sequenceStart }) Reader.word]
  build _ parts :=
    let defaults : LoggerSettings := {}
    .ok ⟨parts.nodeName.getD defaults.nodeName, parts.minLevel.getD defaults.minLevel,
      parts.localOutput.getD defaults.localOutput,
      parts.sequenceStart.getD defaults.sequenceStart⟩

end LoggerSettings

namespace PerLevel

/-- How the section of the colours is read. -/
def shape : Shape (PerLevel (Option String)) (PerLevel String) where
  name := "ColorsConfig"
  empty := ⟨none, none, none, none, none⟩
  fields := [
    .of "debug" PerLevel.debug (fun parts debug => { parts with debug }) Reader.text,
    .of "info" PerLevel.info (fun parts info => { parts with info }) Reader.text,
    .of "warn" PerLevel.warn (fun parts warn => { parts with warn }) Reader.text,
    .of "error" PerLevel.error (fun parts error => { parts with error }) Reader.text,
    .of "fatal" PerLevel.fatal (fun parts fatal => { parts with fatal }) Reader.text]
  build _ parts :=
    let defaults := Palette.defaultNames
    .ok ⟨parts.debug.getD defaults.debug, parts.info.getD defaults.info,
      parts.warn.getD defaults.warn, parts.error.getD defaults.error,
      parts.fatal.getD defaults.fatal⟩

end PerLevel

namespace ConsoleSettings

/-- The fields of the console's section, as far as they are known. -/
structure Parts where
  color : Option Bool := none
  colors : Option (PerLevel String) := none

def shape : Shape Parts ConsoleSettings where
  name := "ConsoleConfig"
  empty := {}
  fields := [
    .of "color" Parts.color (fun parts color => { parts with color }) Reader.boolean,
    .of "colors" Parts.colors (fun parts colors => { parts with colors }) PerLevel.shape.read]
  build _ parts :=
    let defaults : ConsoleSettings := {}
    .ok ⟨parts.color.getD defaults.color, parts.colors.getD defaults.colors⟩

end ConsoleSettings

namespace Settings

/-- The sections, as far as they are known. -/
structure Parts where
  logger : Option LoggerSettings := none
  console : Option ConsoleSettings := none

def shape : Shape Parts Settings where
  name := "LoggerConfig"
  empty := {}
  fields := [
    .of "logger" Parts.logger (fun parts logger => { parts with logger })
      LoggerSettings.shape.read,
    .of "console" Parts.console (fun parts console => { parts with console })
      ConsoleSettings.shape.read]
  build _ parts :=
    let defaults : Settings := {}
    .ok ⟨parts.logger.getD defaults.logger, parts.console.getD defaults.console⟩

def ofJson (text : String) : Except Json.Error Settings :=
  Reader.ofText shape.read text

end Settings

end Logbook
