/-
Places in a program text.  A record may tell from which file and line it was logged; only the
name of the file is shown, never its directories.
-/
namespace Logbook

/-- A file path and a line number. -/
structure Location where
  file : String
  line : UInt32
  deriving DecidableEq, Repr

namespace Location

/-- Directories are divided by slashes of either direction. -/
def isSeparator (c : Char) : Bool :=
  c == '/' || c == '\\'

/-- What follows the last separator of the path. -/
def fileName (location : Location) : String :=
  String.ofList (location.file.toList.reverse.takeWhile (!isSeparator ·)).reverse

/-- The message with the place in front of it. -/
def mark (location : Location) (message : String) : String :=
  "[" ++ location.fileName ++ ":" ++ toString location.line.toNat ++ "] " ++ message

end Location

/-- A message as a record carries it: marked with its place when there is one. -/
def markedMessage (location : Option Location) (message : String) : String :=
  match location with
  | some location => location.mark message
  | none => message

namespace LocationWitness

example : (Location.mk "C:\\work/node.rs" 42).mark "up" = "[node.rs:42] up" := by decide +kernel

example : (Location.mk "src/" 0).fileName = "" := by decide +kernel

end LocationWitness

end Logbook
