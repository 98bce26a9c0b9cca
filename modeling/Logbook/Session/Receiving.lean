/-
Receivers of channels.  A channel is open as long as a logger that is still in use can send
through it.  Loggers are in use while a handle, a draft or the registry holds them, or a
transport of another logger forwards to them.
-/
import Logbook.Session

namespace Logbook.Session

/-- The loggers that are held from outside. -/
def held (session : Session) : List LoggerId :=
  session.handles.map Prod.snd ++ session.drafts.map (·.2.logger) ++
    session.registry.current.toList

def outletsOf (session : Session) (id : LoggerId) : List Outlet :=
  match session.loggers[id]? with
  | some logger => (logger.transport.map Transport.outlets).getD []
  | none => []

/-- A logger is held from outside or by one of some loggers. -/
def isHeldBy (session : Session) (ids : List LoggerId) (id : LoggerId) : Bool :=
  session.held.contains id ||
    ids.any fun other => (session.outletsOf other).contains (.forward id)

/-- Drops, a number of times, all loggers that nothing holds. -/
def keepHeld (session : Session) : Nat → List LoggerId → List LoggerId
  | 0, ids => ids
  | rounds + 1, ids => keepHeld session rounds (ids.filter (session.isHeldBy ids))

/-- The loggers in use. -/
def inUse (session : Session) : List LoggerId :=
  let ids := List.range session.loggers.length
  session.keepHeld ids.length ids

/-- Something may still be sent through a channel. -/
def isOpen (session : Session) (channel : Nat) : Bool :=
  session.inUse.any fun id => (session.outletsOf id).contains (.channel channel)

/-- How receiving came to its end. -/
inductive Receipt where
  /-- As many records as asked for were there. -/
  | enough
  /-- No more records are there now. -/
  | empty
  /-- No more records can come. -/
  | closed
  deriving DecidableEq, Repr

/-- Receives the waiting records, at most as many as asked for. -/
def receive (name : String) (most : Option Nat) (session : Session) :
    (List Record × Receipt) × Session :=
  match session.receivers.get? name with
  | none => (([], .closed), session)
  | some id =>
      let queue := (session.channels[id]?.map Channel.queue).getD []
      let records := match most with
        | some n => queue.take n
        | none => queue
      let rest := queue.drop records.length
      let receipt :=
        if most.any (· ≤ records.length) then Receipt.enough
        else if session.isOpen id then .empty else .closed
      ((records, receipt),
        { session with channels := session.channels.modify id ({ · with queue := rest }) })

def dropReceiver (name : String) (session : Session) : Session :=
  match session.receivers.get? name with
  | none => session
  | some id => { session with
      channels := session.channels.modify id fun _ => ⟨[], false⟩
      receivers := session.receivers.filter (·.1 != name) }

end Logbook.Session
