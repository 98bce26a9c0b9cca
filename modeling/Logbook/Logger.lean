/-
Loggers.  A logger has a name, a threshold, two switches and a counter.  A call at or above the
threshold is accepted: it takes the next number of the counter and becomes a record, whether or
not anything is switched on to receive it.  The record then goes to the console and to the
transport, in this order, and a fault in either does not take the number back.
-/
import Logbook.Line
import Logbook.Location
import Logbook.Fault
import Logbook.Settings
import Logbook.Text.Utf8

namespace Logbook

/-- A logger that writes to a console of type `C` and has a transport of type `T`. -/
structure Logger (C T : Type) where
  nodeName : String
  minLevel : Level
  localOutput : Bool
  remoteOutput : Bool
  transport : Option T
  nextSeq : UInt32
  console : C
  palette : Palette

/-- A call to log: a level, a message, and the place it is made from, if that is to be shown. -/
structure Call where
  level : Level
  message : String
  location : Option Location := none

/-- How a logger reaches its console and its transport. -/
structure Outlets (C T World : Type) where
  print : C → List (List UInt8) → Effect World Unit
  deliver : T → Record → Effect World Unit

namespace Logger

variable {C T World : Type}

/-- Calls at a level are accepted. -/
def enabled (logger : Logger C T) (level : Level) : Bool :=
  decide (logger.minLevel ≤ level)

def setMinLevel (logger : Logger C T) (level : Level) : Logger C T :=
  { logger with minLevel := level }

def setLocalOutput (logger : Logger C T) (on : Bool) : Logger C T :=
  { logger with localOutput := on }

def setRemoteOutput (logger : Logger C T) (on : Bool) : Logger C T :=
  { logger with remoteOutput := on }

/-- Replaces the transport, which switches it on, or removes it, which switches it off. -/
def setTransport (logger : Logger C T) (transport : Option T) : Logger C T :=
  { logger with transport, remoteOutput := transport.isSome }

/-- The record of a call, which takes the next number, and the logger that has counted it. -/
def number (logger : Logger C T) (stamp : Stamp) (call : Call) : Record × Logger C T :=
  (.new stamp logger.nextSeq call.level logger.nodeName (markedMessage call.location call.message),
    { logger with nextSeq := logger.nextSeq + 1 })

/-- The record of a call that is accepted, and the logger that has counted it. -/
def accept? (logger : Logger C T) (stamp : Stamp) (call : Call) :
    Option (Record × Logger C T) :=
  if logger.enabled call.level then some (logger.number stamp call) else none

/-- The transport, if it is switched on. -/
def route (logger : Logger C T) : Option T :=
  if logger.remoteOutput then logger.transport else none

/-- The pieces in which the console line of a record is written. -/
def linePieces (logger : Logger C T) (record : Record) : List (List UInt8) :=
  [Text.utf8 (record.line logger.palette).toList, [10]]

/-- Hands a record to the console, if it is switched on. -/
def print (outlets : Outlets C T World) (logger : Logger C T) (record : Record) :
    Effect World Unit :=
  if logger.localOutput then outlets.print logger.console (logger.linePieces record) else pure ()

/-- Hands a record to the transport, if it is switched on. -/
def send (outlets : Outlets C T World) (logger : Logger C T) (record : Record) :
    Effect World Unit :=
  match logger.route with
  | some transport => outlets.deliver transport record
  | none => pure ()

/-- Hands a record to the console and to the transport, as far as they are switched on. -/
def emit (outlets : Outlets C T World) (logger : Logger C T) (record : Record) :
    Effect World Unit := do
  logger.print outlets record
  logger.send outlets record

/-- Makes a call to a logger.  `store` puts the logger that has counted the call in its place,
which happens before anything is written. -/
def log (outlets : Outlets C T World) (store : Logger C T → World → World) (stamp : Stamp)
    (call : Call) (logger : Logger C T) : Effect World Unit := do
  match logger.accept? stamp call with
  | none => pure ()
  | some (record, counted) => do
      modify (store counted)
      counted.emit outlets record

/-- A description of a logger, with only what identifies it. -/
def description (logger : Logger C T) : String :=
  "LogFacade \x7b node_name: " ++ Text.quoted logger.nodeName ++ ", min_level: " ++
    logger.minLevel.variantName ++ ", .. \x7d"

end Logger

/-- A plan for a logger.  Nothing in it has to be given. -/
structure LoggerPlan (C T : Type) where
  nodeName : String
  minLevel : Level := .debug
  localOutput : Bool := true
  remoteOutput : Option Bool := none
  transport : Option T := none
  console : Option C := none
  palette : Palette := .default
  sequenceStart : UInt32 := 0

namespace LoggerPlan

/-- A choice about one thing that a plan leaves open. -/
inductive Choice (C T : Type) where
  | minLevel (level : Level)
  | localOutput (on : Bool)
  | remoteOutput (on : Bool)
  | transport (transport : T)
  | console (console : C)
  | palette (palette : Palette)
  | sequenceStart (first : UInt32)

variable {C T : Type}

/-- The plan after a choice, which takes the place of any other about the same thing. -/
def choose (plan : LoggerPlan C T) : Choice C T → LoggerPlan C T
  | .minLevel level => { plan with minLevel := level }
  | .localOutput on => { plan with localOutput := on }
  | .remoteOutput on => { plan with remoteOutput := some on }
  | .transport transport => { plan with transport := some transport }
  | .console console => { plan with console := some console }
  | .palette palette => { plan with palette }
  | .sequenceStart first => { plan with sequenceStart := first }

/-- The plan after choices that are made one after the other. -/
def chooseAll (plan : LoggerPlan C T) (choices : List (Choice C T)) : LoggerPlan C T :=
  choices.foldl choose plan

/-- The plan that settings make. -/
def ofSettings (settings : Settings) : LoggerPlan C T where
  nodeName := settings.logger.nodeName
  minLevel := settings.logger.minLevel
  localOutput := settings.logger.localOutput
  sequenceStart := settings.logger.sequenceStart
  palette := settings.palette

/-- The logger after a plan.  Unless the plan says otherwise, the transport is switched on when
there is one. -/
def build (plan : LoggerPlan C T) (standard : C) : Logger C T where
  nodeName := plan.nodeName
  minLevel := plan.minLevel
  localOutput := plan.localOutput
  remoteOutput := plan.remoteOutput.getD plan.transport.isSome
  transport := plan.transport
  nextSeq := plan.sequenceStart
  console := plan.console.getD standard
  palette := plan.palette

end LoggerPlan

namespace LoggerWitness

/-- A logger without outlets. -/
def sample : Logger Unit Unit :=
  LoggerPlan.build { nodeName := "arm", minLevel := .warn, sequenceStart := 4294967295 } ()

example : (sample.accept? ⟨0, 0⟩ ⟨.info, "x", none⟩).isNone = true := by decide

example : (sample.accept? ⟨0, 0⟩ ⟨.warn, "x", none⟩).map (fun r => (r.1.seq, r.2.nextSeq)) =
    some (4294967295, 0) := by decide +kernel

end LoggerWitness

end Logbook
