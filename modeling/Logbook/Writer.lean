/-
Writers.  One call may take only the first part of the bytes it is given, so writing a text is a
loop of calls; it stops at the first call that fails or takes nothing.
-/
import Logbook.Fault
import Logbook.Text.Utf8

namespace Logbook

/-- A place for bytes: what one call to write does, and what a call to flush does.  A call
answers with the number of bytes it took, or tells why it failed.  One that was interrupted before
it took anything is made again at once, and is one call with the next. -/
structure Writer (World : Type) where
  write : List UInt8 → Effect World (Except String Nat)
  flush : Effect World (Except String Unit)

namespace Writer

variable {World : Type} (writer : Writer World)

/-- What a writer that takes nothing more is reported with. -/
def stalled : String := "failed to write whole buffer"

def writeAll (bytes : List UInt8) : Effect World (Except String Unit) := do
  match bytes with
  | [] => return .ok ()
  | first :: rest =>
      match ← writer.write (first :: rest) with
      | .error reason => return .error reason
      | .ok 0 => return .error stalled
      | .ok (n + 1) => writeAll (rest.drop n)
termination_by bytes.length
decreasing_by
  simp only [List.length_drop, List.length_cons]
  omega

/-- Writes pieces one after the other, up to the first that fails. -/
def writePieces : List (List UInt8) → Effect World (Except String Unit)
  | [] => return .ok ()
  | piece :: rest => do
      match ← writer.writeAll piece with
      | .error reason => return .error reason
      | .ok () => writePieces rest

end Writer

end Logbook
