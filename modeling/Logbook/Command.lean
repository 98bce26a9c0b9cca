/-
The command.  It logs every line of its input at one level, to the console on its standard error
stream and, when asked to, as JSON on its standard output.  It takes the time from its host and
writes through it, so the same command runs as a program and in a world of clocks and streams that
are known.  Main definitions: `Run.takeLine`, which logs a line, `Run.serve`, which cuts the input
into lines, `Command.perform`, which puts all together, and `Command.report`.
-/
import Logbook.Command.Diagnostics
import Logbook.Command.Options
import Logbook.JsonLines
import Logbook.Logger
import Logbook.Settings.File

namespace Logbook.Command

/-- What was written to the output streams, piece by piece and the last piece first. -/
structure Streams where
  outPieces : List (List UInt8) := []
  errPieces : List (List UInt8) := []
  deriving DecidableEq, Repr

namespace Streams

def out (streams : Streams) : List UInt8 :=
  streams.outPieces.reverse.flatten

/-- The bytes on the standard error stream. -/
def err (streams : Streams) : List UInt8 :=
  streams.errPieces.reverse.flatten

def addOut (bytes : List UInt8) (streams : Streams) : Streams :=
  { streams with outPieces := bytes :: streams.outPieces }

def addErr (bytes : List UInt8) (streams : Streams) : Streams :=
  { streams with errPieces := bytes :: streams.errPieces }

@[simp] theorem out_empty : out {} = [] := rfl

@[simp] theorem err_empty : err {} = [] := rfl

/-- The streams after more was written. -/
def append (streams more : Streams) : Streams :=
  ⟨more.outPieces ++ streams.outPieces, more.errPieces ++ streams.errPieces⟩

@[simp] theorem out_append (streams more : Streams) :
    (streams.append more).out = streams.out ++ more.out := by
  simp [append, out]

@[simp] theorem err_append (streams more : Streams) :
    (streams.append more).err = streams.err ++ more.err := by
  simp [append, err]

@[simp] theorem out_addOut (bytes : List UInt8) (streams : Streams) :
    (streams.addOut bytes).out = streams.out ++ bytes := by
  simp [addOut, out]

@[simp] theorem err_addOut (bytes : List UInt8) (streams : Streams) :
    (streams.addOut bytes).err = streams.err := rfl

@[simp] theorem out_addErr (bytes : List UInt8) (streams : Streams) :
    (streams.addErr bytes).out = streams.out := rfl

@[simp] theorem err_addErr (bytes : List UInt8) (streams : Streams) :
    (streams.addErr bytes).err = streams.err ++ bytes := by
  simp [addErr, err]

/-- Writes a text to the standard error stream. -/
def addError (text : String) (streams : Streams) : Streams :=
  streams.addErr (Text.utf8 text.toList)

/-- The standard output as a writer, which takes everything. -/
def outWriter : Writer Streams where
  write bytes := fun streams => .ok (.ok bytes.length) (streams.addOut bytes)
  flush := pure (.ok ())

/-- A logger prints to the standard error stream and sends JSON to the standard output. -/
def outlets : Outlets Unit Unit Streams where
  print _ pieces := modify (addErr pieces.flatten)
  deliver _ record := do
    let _ ← JsonLines.publish outWriter record

end Streams

/-- Why the command stops with a complaint. -/
inductive Failure where
  | badSettings (problem : Settings.Problem)
  | badInput
  deriving DecidableEq, Repr

/-- The complaint. -/
def Failure.message : Failure → String
  | .badSettings problem => problem.message?.getD "the settings cannot be read"
  | .badInput => "stream did not contain valid UTF-8"

/-- What is written about a failure. -/
def Failure.complaint (failure : Failure) : Streams :=
  Streams.addError ("Error: " ++ failure.message ++ "\n") {}

/-- What is written when the command does not begin to work. -/
def Refusal.answer : Refusal → Streams
  | .help => Streams.addOut (Text.utf8 usage.toList) {}
  | .misuse => Streams.addError usage {}

/-- The exit code of a command that does not begin to work. -/
def Refusal.code : Refusal → UInt32
  | .help => 0
  | .misuse => 2

/-- The settings after the options that override them. -/
def Options.override (options : Options) (settings : Settings) : Settings :=
  { settings with
    logger := { settings.logger with
      nodeName := options.node.getD settings.logger.nodeName
      minLevel := options.minLevel.getD settings.logger.minLevel
      localOutput := settings.logger.localOutput && !options.noLocal } }

/-- The settings that the options ask for, before they override any. -/
def Options.baseSettings (options : Options) (formats : List Settings.Format)
    (files : Settings.Files) (environment : List (String × String)) :
    Except Settings.Problem Settings :=
  match options.config with
  | some path => Settings.loadFrom formats files path environment
  | none => Settings.ofSources []

/-- The command at work. -/
structure Run where
  options : Options
  filter : Filter
  logger : Logger Unit Unit

/-- Begins to work with settings that the options have overridden. -/
def Run.begin (options : Options) (filter : Filter) (settings : Settings) : Run :=
  let base : LoggerPlan Unit Unit := .ofSettings settings
  let plan := { base with transport := if options.json then some () else none }
  ⟨options, filter, plan.build ()⟩

/-- A line without its line feed and one carriage return before that. -/
def trimLineEnd (line : List UInt8) : List UInt8 :=
  match line.reverse with
  | 10 :: 13 :: rest => rest.reverse
  | 10 :: rest => rest.reverse
  | _ => line

/-- The text of bytes, if they are the bytes of a text. -/
def text? (bytes : List UInt8) : Option String :=
  String.fromUTF8? ⟨bytes.toArray⟩

/-- Where the command runs. -/
structure Host (m : Type → Type) where
  /-- Reads the clock for a record. -/
  stamp : m Stamp
  /-- Reads the clock for a diagnostic. -/
  time : m String
  /-- Writes to the output streams. -/
  write : Streams → m Unit

/-- The command between two bytes of its input. -/
structure Reading where
  run : Run
  /-- The bytes of the line that has begun, the last one first. -/
  line : List UInt8 := []

/-- Everything that the command is given besides its input. -/
structure Request where
  arguments : List String
  environment : List (String × String)
  files : Settings.Files

/-- The variable of the environment that holds the filter of diagnostics. -/
def filterVariable : String := "RUST_LOG"

/-- The filter of the diagnostics of a request. -/
def Request.filter (request : Request) : Filter :=
  .ofVariable (request.environment.lookup filterVariable)

section Work

variable {m : Type → Type} [Monad m] (host : Host m)

/-- Tells a diagnostic, if the options ask for them and the filter lets it through. -/
def tell (options : Options) (filter : Filter) (d : Diagnostic) : ExceptT Failure m Unit := do
  let time ← host.time
  if options.debug && d.isShownBy filter then
    host.write (Streams.addError (d.line time) {})

namespace Run

/-- Logs a text, unless it is empty. -/
def logText (run : Run) (text : String) : ExceptT Failure m Run := do
  if text.isEmpty then return run
  else
    match run.logger.accept? (← host.stamp) ⟨run.options.lineLevel, text, none⟩ with
    | none => return run
    | some (record, logger) =>
        let (_, streams) := (logger.emit Streams.outlets record).outcome {}
        host.write streams
        return { run with logger }

/-- Takes a line of the input, with its line end if it has one. -/
def takeLine (run : Run) (line : List UInt8) : ExceptT Failure m Run :=
  match text? (trimLineEnd line) with
  | some text => run.logText host text
  | none => throw .badInput

/-- Ends the work at the end of the input. -/
def finish (run : Run) : ExceptT Failure m Unit :=
  tell host run.options run.filter (.closed run.logger.nextSeq)

end Run

namespace Reading

/-- Takes a byte.  A line feed ends the line. -/
def takeByte (reading : Reading) (b : UInt8) : ExceptT Failure m Reading := do
  if b = 10 then return { run := ← reading.run.takeLine host (b :: reading.line).reverse }
  else return { reading with line := b :: reading.line }

/-- Takes the line that the end of the input ends, if one has begun. -/
def takeRest (reading : Reading) : ExceptT Failure m Run :=
  if reading.line.isEmpty then return reading.run
  else reading.run.takeLine host reading.line.reverse

end Reading

section Input

variable {Input : Type} [ForIn (ExceptT Failure m) Input (List UInt8)]

/-- Takes the lines of an input, which comes in chunks of bytes.  They end where they may. -/
def Run.serve (run : Run) (input : Input) : ExceptT Failure m Run := do
  let mut reading : Reading := { run }
  for chunk in input do
    reading ← chunk.foldlM (Reading.takeByte host) reading
  reading.takeRest host

variable (formats : List Settings.Format) (request : Request) (input : Input)

/-- The work that the options ask for. -/
def work (options : Options) : ExceptT Failure m Unit := do
  tell host options request.filter .enabled
  match options.baseSettings formats request.files request.environment with
  | .error problem => throw (.badSettings problem)
  | .ok settings =>
      let settings := options.override settings
      tell host options request.filter
        (.ready settings.logger.nodeName settings.logger.minLevel)
      let run ← (Run.begin options request.filter settings).serve host input
      run.finish host

/-- All that the command does, up to its exit code. -/
def perform : m UInt32 :=
  match Options.ofArguments request.arguments with
  | .error refusal => do
      host.write refusal.answer
      return refusal.code
  | .ok options => do
      match ← (work host formats request input options).run with
      | .ok () => return 0
      | .error failure =>
          host.write failure.complaint
          return 1

end Input

end Work

/-- What the clocks show, reading after reading. -/
structure Clocks where
  stamps : Nat → Stamp
  times : Nat → String

/-- A world in which the command may run: what its clocks are going to show, and what has been
written. -/
structure World extends Clocks where
  streams : Streams := {}

/-- The host of such a world: every reading of a clock is the next one. -/
def World.host : Host (StateM World) where
  stamp := modifyGet fun world =>
    (world.stamps 0, { world with stamps := fun i => world.stamps (i + 1) })
  time := modifyGet fun world =>
    (world.times 0, { world with times := fun i => world.times (i + 1) })
  write more := modify fun world => { world with streams := world.streams.append more }

/-- How the command ends: its exit code, and what it wrote. -/
structure Report where
  code : UInt32
  streams : Streams
  deriving DecidableEq, Repr

/-- What the command does in a world of its own, in which the input comes in these chunks. -/
def report (formats : List Settings.Format) (request : Request) (chunks : List (List UInt8))
    (clocks : Clocks) : Report :=
  let (code, world) := (perform World.host formats request chunks).run { clocks with }
  ⟨code, world.streams⟩

end Logbook.Command
