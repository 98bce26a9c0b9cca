/-
Records.  A record is what one accepted log call produces.  It is built once, handed to the
console and to the transport, and not kept.
-/
import Logbook.Level

namespace Logbook

/-- A moment: whole seconds since 1970 in UTC and the microseconds behind them.  A clock gives
fewer than a million microseconds; a stamp read from elsewhere may carry more. -/
structure Stamp where
  sec : Int64
  usec : UInt32
  deriving DecidableEq, Repr

namespace Stamp

/-- Stamps are ordered by their seconds, then by their microseconds. -/
def le (a b : Stamp) : Bool :=
  decide (a.sec < b.sec) || (a.sec == b.sec && decide (a.usec ≤ b.usec))

/-- A clock reading of whole nanoseconds since 1970.  A leap second counts as part of the last
microsecond before it. -/
def ofReading (sec : Int64) (nanos : Nat) : Stamp :=
  ⟨sec, (min (nanos / 1000) 999999).toUInt32⟩

end Stamp

/-- When and by whom a record was made, and its place in the sequence of its logger. -/
structure Header where
  stamp : Stamp
  seq : UInt32
  frameId : String
  deriving DecidableEq, Repr

/-- One accepted log call. -/
structure Record where
  header : Header
  level : Level
  nodeName : String
  message : String
  deriving DecidableEq, Repr

/-- The record of a log call.  The frame is named after the node. -/
def Record.new (stamp : Stamp) (seq : UInt32) (level : Level) (node message : String) : Record where
  header := ⟨stamp, seq, node⟩
  level := level
  nodeName := node
  message := message

/-- The record's place in the sequence of its logger. -/
def Record.seq (record : Record) : UInt32 :=
  record.header.seq

/-- The moment of the record. -/
def Record.stamp (record : Record) : Stamp :=
  record.header.stamp

end Logbook
