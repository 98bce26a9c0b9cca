/-
Diagnostic events.  They are what the library tells the program that uses it: that a record was
lost on its way to a writer, and, where a logger is asked to, every record itself.
-/
import Logbook.Record

namespace Logbook

/-- The severities of events, which know nothing graver than an error. -/
inductive EventLevel where
  | debug
  | info
  | warn
  | error
  deriving DecidableEq, Repr

namespace EventLevel

def name : EventLevel → String
  | .debug => "DEBUG"
  | .info => "INFO"
  | .warn => "WARN"
  | .error => "ERROR"

end EventLevel

inductive Event where
  /-- A record, which may be fatal, as an event. -/
  | record (level : EventLevel) (fatal : Bool) (node : String) (seq : UInt32) (message : String)
  /-- A record did not reach its writer. -/
  | lost (seq : UInt32) (reason : String)
  deriving DecidableEq, Repr

namespace Event

def ofRecord (record : Record) : Event :=
  let event (level : EventLevel) (fatal : Bool) : Event :=
    .record level fatal record.nodeName record.seq record.message
  match record.level with
  | .debug => event .debug false
  | .info => event .info false
  | .warn => event .warn false
  | .error => event .error false
  | .fatal => event .error true

def level : Event → EventLevel
  | .record level _ _ _ _ => level
  | .lost _ _ => .warn

def message : Event → String
  | .record _ _ _ _ message => message
  | .lost _ _ => "json sink dropped a record"

end Event

end Logbook
