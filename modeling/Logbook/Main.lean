/-
The command line program: a host for the command that reads the clock of the system and writes to
the output streams, and what the command is given.
-/
import Logbook.Calendar
import Logbook.Command
import Std.Time.DateTime.Timestamp

namespace Logbook.Program

/-- The clock. -/
def readClock : IO Stamp := do
  let nanos := (← Std.Time.Timestamp.now).toNanosecondsSinceUnixEpoch.val
  return .ofReading (Int64.ofInt (nanos / 1000000000)) (nanos % 1000000000).toNat

def cutAtZeros (bytes : List UInt8) : List (List UInt8) :=
  (bytes.splitBy fun _ b => b != 0).map fun piece =>
    match piece with
    | 0 :: rest => rest
    | piece => piece

/-- A variable of the environment and its value. -/
def variableOf? (entry : List UInt8) : Option (String × String) := do
  let name := entry.takeWhile (· != 61)
  let value := (entry.dropWhile (· != 61)).drop 1
  return (← Command.text? name, ← Command.text? value)

/-- The variables of the environment. -/
def readVariables : IO (List (String × String)) := do
  try
    let bytes ← IO.FS.readBinFile "/proc/self/environ"
    return (cutAtZeros bytes.toList).filterMap variableOf?
  catch _ => return []

/-- Writes a stream as far as it can be written to. -/
def send (stream : IO.FS.Stream) (bytes : List UInt8) : IO Unit := do
  try
    stream.write ⟨bytes.toArray⟩
    stream.flush
  catch _ => return

def host : Command.Host IO where
  stamp := readClock
  time := return (← readClock).dateTimeText
  write streams := do
    send (← IO.getStderr) streams.err
    send (← IO.getStdout) streams.out

/-- There is a file at a path, not a directory. -/
def isFile (path : Settings.FilePath) : IO Bool := do
  try
    let found ← IO.FS.realPath path.text
    return (← found.metadata).type == .file
  catch _ => return false

/-- The bytes of a file, if they can be read. -/
def readFile? (path : Settings.FilePath) : IO (Option (List UInt8)) := do
  try
    return some (← IO.FS.readBinFile path.text).toList
  catch _ => return none

/-- The files among some paths. -/
def readFiles (paths : List Settings.FilePath) : IO Settings.Files := do
  let found ← paths.filterM isFile
  let contents ← found.mapM fun path => return (path, ← readFile? path)
  return {
    isFile := found.contains
    bytes? := fun path => (contents.lookup path).join }

/-- All files that the arguments may mean. -/
def filesOf (formats : List Settings.Format) (arguments : List String) :
    List Settings.FilePath :=
  match Command.Options.ofArguments arguments with
  | .ok { config := some path, .. } => (Settings.FilePath.ofText path).candidates formats
  | _ => []

/-- Everything that the command is given besides its input. -/
def readRequest (formats : List Settings.Format) (arguments : List String) :
    IO Command.Request := do
  return {
    arguments
    environment := ← readVariables
    files := ← readFiles (filesOf formats arguments) }

/-- A stream whose bytes are taken as they come. -/
structure Source where
  stream : IO.FS.Stream

/-- Goes through the chunks of a source up to its end. -/
partial def Source.forChunks {m : Type → Type} [Monad m] [MonadLiftT IO m] {β : Type}
    (source : Source) (state : β) (step : List UInt8 → β → m (ForInStep β)) : m β := do
  let chunk ← (source.stream.read 65536 : IO ByteArray)
  if chunk.isEmpty then return state
  else
    match ← step chunk.toList state with
    | .done state => return state
    | .yield state => source.forChunks state step

instance : ForIn (ExceptT Command.Failure IO) Source (List UInt8) where
  forIn := Source.forChunks

end Logbook.Program

open Logbook in
def main (arguments : List String) : IO UInt32 := do
  let formats := Settings.Format.known
  let request ← Program.readRequest formats arguments
  Command.perform Program.host formats request (Program.Source.mk (← IO.getStdin))
