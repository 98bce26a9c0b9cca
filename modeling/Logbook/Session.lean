/-
Sessions.  A session is what a program that logs has in hand: its loggers and their consoles,
what their transports lead to, the shared logger, and all that has become visible so far.
Loggers may forward records to each other.

Every logger, memory and channel is known by a number, and keeps it.  Memories of one use and name
are ends of one place: each has limits of its own, and what any of them took counts for all.
-/
import Logbook.Draft
import Logbook.Gate
import Logbook.JsonLines
import Logbook.Registry
import Logbook.Transport

namespace Logbook

abbrev LoggerId := Nat

/-- Where a logger prints its lines. -/
inductive Console where
  | standardError
  /-- A memory with a number. -/
  | memory (id : Nat)
  deriving DecidableEq, Repr

/-- What a transport leads to. -/
inductive Outlet where
  /-- Takes every record. -/
  | capture (name : String)
  /-- Raises a fault at a certain message, and takes every other record. -/
  | faulty (name : String) (trigger : String)
  /-- Takes the records from a level upwards. -/
  | filter (name : String) (least : Level)
  /-- Writes lines of JSON to a memory with a number. -/
  | jsonLines (memory : Nat)
  /-- Makes events of records. -/
  | events
  /-- Sends records through a channel with a number. -/
  | channel (id : Nat)
  /-- Logs the messages of records with another logger. -/
  | forward (logger : LoggerId)
  deriving DecidableEq, Repr

/-- A record that was delivered, and to whom. -/
structure Delivery where
  receiver : String
  record : Record
  deriving DecidableEq, Repr

/-- What a memory is used for. -/
inductive MemoryUse where
  | console (name : String)
  | json (name : String)
  deriving DecidableEq, Repr

/-- Bytes in named places, for each use of a memory. -/
structure Places where
  consoles : Members (List UInt8) := []
  json : Members (List UInt8) := []

namespace Places

/-- The bytes in the place of a use. -/
def bytesOf (places : Places) : MemoryUse → List UInt8
  | .console name => (places.consoles.get? name).getD []
  | .json name => (places.json.get? name).getD []

/-- Adds bytes in the place of a use. -/
def add (places : Places) (use : MemoryUse) (bytes : List UInt8) : Places :=
  if bytes.isEmpty then places
  else match use with
    | .console name =>
        { places with consoles := places.consoles.put name (places.bytesOf use ++ bytes) }
    | .json name => { places with json := places.json.put name (places.bytesOf use ++ bytes) }

end Places

/-- What has become visible. -/
structure Visible extends Places where
  standardError : List UInt8 := []
  deliveries : List Delivery := []
  events : List Event := []

/-- A channel: the records that wait in it, and whether anybody may still receive them. -/
structure Channel where
  queue : List Record := []
  received : Bool := true

/-- A logger of a session. -/
abbrev SessionLogger := Logger Console (Transport Outlet)

/-- A plan for a logger of a session. -/
abbrev SessionPlan := LoggerPlan Console (Transport Outlet)

/-- A draft and the logger it is for. -/
structure OpenDraft where
  logger : LoggerId
  draft : Draft

/-- A session.  Handles, drafts and receivers have names of the program's choice. -/
structure Session where
  clock : Stamp := ⟨0, 0⟩
  loggers : List SessionLogger := []
  memories : List (MemoryUse × Limits) := []
  stored : Places := {}
  channels : List Channel := []
  handles : Members LoggerId := []
  drafts : Members OpenDraft := []
  receivers : Members Nat := []
  registry : Registry LoggerId := {}
  gates : Gates := {}
  visible : Visible := {}

namespace Session

def reveal (change : Visible → Visible) (session : Session) : Session :=
  { session with visible := change session.visible }

/-- The memory with a number, and what it is used for. -/
def memory? (id : Nat) (session : Session) : Option (MemoryUse × Memory) :=
  session.memories[id]?.map fun (use, limits) => (use, { limits, held := session.stored.bytesOf use })

/-- Adds bytes in the place of a use, where they are visible. -/
def store (use : MemoryUse) (bytes : List UInt8) (session : Session) : Session :=
  reveal (fun visible => { visible with toPlaces := visible.toPlaces.add use bytes })
    { session with stored := session.stored.add use bytes }

/-- The memory with a number as a writer. -/
def memoryWriter (id : Nat) : Writer Session where
  write bytes session :=
    match session.memory? id with
    | none => .ok (.ok bytes.length) session
    | some (use, memory) =>
        match memory.write bytes with
        | .error fault => .error fault session
        | .ok (taken, after) => .ok taken (session.store use (after.held.drop memory.held.length))
  flush session :=
    match session.memory? id with
    | none => .ok (.ok ()) session
    | some (_, memory) => .ok memory.flush.1 session

/-- Prints a line.  A console that fails is none of the logger's business. -/
def print (console : Console) (pieces : List (List UInt8)) : Effect Session Unit :=
  match console with
  | .standardError => modify <| reveal fun visible =>
      { visible with standardError := visible.standardError ++ pieces.flatten }
  | .memory id => do
      let _ ← (memoryWriter id).writePieces pieces

def emitEvent (event : Event) : Effect Session Unit :=
  modify <| reveal fun visible => { visible with events := visible.events ++ [event] }

def deliverTo (receiver : String) (record : Record) : Effect Session Unit :=
  modify <| reveal fun visible =>
    { visible with deliveries := visible.deliveries ++ [⟨receiver, record⟩] }

/-- Sends a record through a channel, unless nobody may receive it any more. -/
def sendThrough (id : Nat) (record : Record) : Effect Session Unit :=
  modify fun session => { session with
    channels := session.channels.modify id fun channel =>
      if channel.received then { channel with queue := channel.queue ++ [record] } else channel }

/-- Hands a record to an outlet, given a way to log with other loggers. -/
def send (logWith : LoggerId → Call → Effect Session Unit) (outlet : Outlet) (record : Record) :
    Effect Session Unit :=
  match outlet with
  | .capture name => deliverTo name record
  | .faulty name trigger =>
      if record.message = trigger then throw (.raised ("transport failure: " ++ trigger))
      else deliverTo name record
  | .filter name least =>
      if least ≤ record.level then deliverTo name record else pure ()
  | .jsonLines memory => do
      match ← JsonLines.publish (memoryWriter memory) record with
      | some event => emitEvent event
      | none => pure ()
  | .events => emitEvent (.ofRecord record)
  | .channel id => sendThrough id record
  | .forward logger => logWith logger ⟨record.level, record.message, none⟩

def putLogger (id : LoggerId) (logger : SessionLogger) (session : Session) : Session :=
  { session with loggers := session.loggers.set id logger }

/-- Makes a call to a logger, through at most `depth` loggers that forward to each other. -/
def logWithin : Nat → LoggerId → Call → Effect Session Unit
  | 0, _, _ => throw .stuck
  | depth + 1, id, call => do
      let session ← get
      match session.loggers[id]? with
      | none => pure ()
      | some logger =>
          let outlets : Outlets Console (Transport Outlet) Session :=
            { print, deliver := Transport.deliver (send (logWithin depth)) }
          logger.log outlets (putLogger id) session.clock call

/-- Makes a call to a logger.  Forwarding through more loggers than there are comes back to one
that is still logging. -/
def log (id : LoggerId) (call : Call) : Effect Session Unit := do
  logWithin ((← get).loggers.length + 1) id call

def modifyLogger (id : LoggerId) (change : SessionLogger → SessionLogger) (session : Session) :
    Session :=
  { session with loggers := session.loggers.modify id change }

/-- Adds a memory and gives its number. -/
def addMemory (use : MemoryUse) (limits : Limits) (session : Session) : Nat × Session :=
  (session.memories.length,
    { session with memories := session.memories ++ [(use, limits)] })

/-- Adds a channel, whose receiver takes the place of any other of its name. -/
def addChannel (name : String) (session : Session) : Nat × Session :=
  let channels := match session.receivers.get? name with
    | some old => session.channels.modify old fun _ => ⟨[], false⟩
    | none => session.channels
  (channels.length,
    { session with
      channels := channels ++ [{}], receivers := session.receivers.put name channels.length })

/-- Adds a logger and gives its number. -/
def addLogger (plan : SessionPlan) (session : Session) : LoggerId × Session :=
  (session.loggers.length,
    { session with loggers := session.loggers ++ [plan.build .standardError] })

def bindHandle (name : String) (id : LoggerId) (session : Session) : Session :=
  { session with handles := session.handles.put name id }

/-- Shares a new logger. -/
def install (plan : SessionPlan) (session : Session) : Session :=
  let (id, session) := session.addLogger plan
  { session with registry := session.registry.install id }

/-- The shared logger, which is a new one of the fallback's name where there was none. -/
def shared (session : Session) : LoggerId × Session :=
  match session.registry.current with
  | some id => (id, session)
  | none =>
      let (id, session) := session.addLogger { nodeName := fallbackName }
      (id, { session with registry := session.registry.fallBack id })

end Session

end Logbook
