/-
Records as lines of JSON.  A record is written piece by piece, then its line end, then the writer
is flushed; the first failure ends that and is reported as the loss of the record.
-/
import Logbook.Event
import Logbook.Record.Wire
import Logbook.Writer.Memory

namespace Logbook.JsonLines

variable {World : Type}

/-- The line end. -/
def lineEnd : List UInt8 := [10]

/-- The pieces in which a record and its line end are written. -/
def pieces (record : Record) : List (List UInt8) :=
  record.pieces.map Text.utf8 ++ [lineEnd]

/-- The bytes of a record and its line end. -/
def line (record : Record) : List UInt8 :=
  (pieces record).flatten

/-- Writes a record and flushes. -/
def put (writer : Writer World) (record : Record) : Effect World (Except String Unit) := do
  match ← writer.writePieces (pieces record) with
  | .error reason => return .error reason
  | .ok () => writer.flush

/-- Writes a record; its loss is an event. -/
def publish (writer : Writer World) (record : Record) : Effect World (Option Event) := do
  match ← put writer record with
  | .ok () => return none
  | .error reason => return some (.lost record.seq reason)

/-- Writes records one after the other; those that are lost are events. -/
def publishAll (writer : Writer World) : List Record → Effect World (List Event)
  | [] => return []
  | record :: rest => do
      let event ← publish writer record
      return event.toList ++ (← publishAll writer rest)

end Logbook.JsonLines
