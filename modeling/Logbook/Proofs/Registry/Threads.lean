/-
Threads that share the registry.  The slot of the registry stands behind a lock that one thread
may have for writing, or any number for reading.  To install a logger or to reset the registry, a
thread takes the lock for writing, fills or empties the slot, sets the flag that tells whether a
logger was installed, and gives the lock back.  To ask for the shared logger, a thread looks into
the slot with the lock taken for reading.  If it finds nothing it gives the lock back, takes it for
writing, and looks once more; only then it fills the slot with a fallback.  The flag is read
without the lock.

Each of these is one turn of one thread, and a schedule says whose turn is next.  A thread that
waits for the lock, or has nothing left to ask, wastes its turn.  The history keeps what happened,
in its order.  Main statement: `leads_of_request`, a thread alone gets the answer that the
registry gives.
-/
import Logbook.Session
import Logbook.Proofs.Linearization
import Mathlib.Logic.Function.Basic

namespace Logbook

namespace Registry

/-- What can be asked of the registry. -/
inductive Request where
  | install (plan : SessionPlan)
  | reset
  | shared
  | initialized

/-- What the registry answers. -/
inductive Answer where
  | done
  | handle (id : LoggerId)
  | flag (initialized : Bool)
  deriving DecidableEq, Repr

/-- The answer to a request, and the session after it. -/
def serve (session : Session) : Request → Answer × Session
  | .install plan => (.done, session.install plan)
  | .reset => (.done, { session with registry := session.registry.reset })
  | .shared => (.handle session.shared.1, session.shared.2)
  | .initialized => (.flag session.registry.initialized, session)

/-- The request to install a logger of a plan, or to install none any more. -/
def Request.change : Option SessionPlan → Request
  | some plan => .install plan
  | none => .reset

/-- Fills the slot with a new logger of a plan, or empties it. -/
def place (session : Session) : Option SessionPlan → Session
  | some plan =>
      let (id, session) := session.addLogger plan
      { session with registry := { session.registry with current := some id } }
  | none => { session with registry := { session.registry with current := none } }

/-- Sets the flag that tells whether a logger was installed. -/
def setInitialized (session : Session) (initialized : Bool) : Session :=
  { session with registry := { session.registry with initialized } }

/-- A change of the registry is a change of the slot and then of the flag. -/
theorem serve_change (session : Session) (plan : Option SessionPlan) :
    serve session (.change plan) = (.done, setInitialized (place session plan) plan.isSome) := by
  cases plan <;> rfl

/-- A handle that is shared already is the answer, and stays. -/
theorem serve_shared_of_some {session : Session} {id : LoggerId}
    (h : session.registry.current = some id) : serve session .shared = (.handle id, session) := by
  simp [serve, Session.shared, h]

@[simp] theorem place_initialized (session : Session) (plan : Option SessionPlan) :
    (place session plan).registry.initialized = session.registry.initialized := by
  cases plan <;> rfl

/-- How far a thread has come with a request. -/
inductive Stage where
  /-- It has no request, or has not begun with it. -/
  | idle
  /-- It has begun, and its first step is due. -/
  | begun (request : Request)
  /-- It has the lock for writing, and the slot is due. -/
  | placing (plan : Option SessionPlan)
  /-- It has the lock for writing, and the flag is due. -/
  | flagging (plan : Option SessionPlan)
  /-- It has the lock for reading, and its look into the slot is due. -/
  | looking
  /-- It has the lock for reading, and has looked. -/
  | leaving (found : Option LoggerId)
  /-- It has found nothing, and waits for the lock for writing. -/
  | missing
  /-- It has the lock for writing, and its second look is due. -/
  | filling
  /-- It has the lock for writing, and is done. -/
  | unlocking (answer : Answer)
  /-- Its end is due. -/
  | returning (answer : Answer)

/-- A thread: how far it has come with its request, the number of requests that it is done with,
and the requests behind that one. -/
structure Caller where
  stage : Stage
  ended : Nat
  todo : List Request

/-- What happened, and for which request of which thread. -/
inductive Mark (Name : Type) where
  | began (ticket : Name × Nat) (request : Request)
  /-- The lock was taken. -/
  | locked (ticket : Name × Nat)
  /-- The slot was filled by an installation, or emptied. -/
  | placed (ticket : Name × Nat) (current : Option LoggerId)
  /-- The flag was set for a change of the slot. -/
  | flagged (ticket : Name × Nat) (plan : Option SessionPlan)
  /-- There was a handle in the slot. -/
  | found (ticket : Name × Nat) (id : LoggerId)
  /-- There was no handle in the slot. -/
  | missed (ticket : Name × Nat)
  /-- The slot was filled with a fallback. -/
  | made (ticket : Name × Nat) (id : LoggerId)
  /-- The flag was read. -/
  | loaded (ticket : Name × Nat) (initialized : Bool)
  /-- The lock was given back. -/
  | unlocked (ticket : Name × Nat)
  | ended (ticket : Name × Nat) (answer : Answer)

end Registry

/-- A session whose registry is shared by threads, who has the lock of its slot, and what happened
so far. -/
structure SharedRegistry (Name : Type) where
  session : Session
  /-- The thread that has the lock for writing. -/
  writer : Option Name
  /-- The threads that have the lock for reading. -/
  readers : List Name
  callers : Name → Registry.Caller
  history : List (Registry.Mark Name)

namespace SharedRegistry

open Registry

variable {Name : Type}

/-- Threads with their programs, before their first turn.  Nothing is shared yet. -/
def begin (programs : Name → List Request) (session : Session) : SharedRegistry Name where
  session := { session with registry := {} }
  writer := none
  readers := []
  callers name := ⟨.idle, 0, programs name⟩
  history := []

/-- The request that a thread is at. -/
def ticket (s : SharedRegistry Name) (name : Name) : Name × Nat :=
  (name, (s.callers name).ended)

variable [DecidableEq Name]

/-- Moves a thread on, and notes what happened. -/
def put (s : SharedRegistry Name) (name : Name) (caller : Caller) (mark : Registry.Mark Name) :
    SharedRegistry Name :=
  { s with callers := Function.update s.callers name caller, history := s.history ++ [mark] }

/-- Moves a thread on with its request. -/
def go (s : SharedRegistry Name) (name : Name) (stage : Stage) (mark : Registry.Mark Name) :
    SharedRegistry Name :=
  s.put name { s.callers name with stage } mark

/-- Takes the lock for writing, if nobody has it. -/
def lockToWrite (s : SharedRegistry Name) (name : Name) (stage : Stage) : SharedRegistry Name :=
  match s.writer, s.readers with
  | none, [] => { s with writer := some name }.go name stage (.locked (s.ticket name))
  | _, _ => s

/-- Takes the lock for reading, if nobody has it for writing. -/
def lockToRead (s : SharedRegistry Name) (name : Name) (stage : Stage) : SharedRegistry Name :=
  match s.writer with
  | none => { s with readers := name :: s.readers }.go name stage (.locked (s.ticket name))
  | some _ => s

/-- One turn of a thread. -/
def turn (s : SharedRegistry Name) (name : Name) : SharedRegistry Name :=
  match (s.callers name).stage, (s.callers name).todo with
  | .idle, [] => s
  | .idle, request :: rest =>
      s.put name { s.callers name with stage := .begun request, todo := rest }
        (.began (s.ticket name) request)
  | .begun (.install plan), _ => s.lockToWrite name (.placing (some plan))
  | .begun .reset, _ => s.lockToWrite name (.placing none)
  | .begun .shared, _ => s.lockToRead name .looking
  | .begun .initialized, _ =>
      s.go name (.returning (.flag s.session.registry.initialized))
        (.loaded (s.ticket name) s.session.registry.initialized)
  | .placing plan, _ =>
      let session := place s.session plan
      { s with session }.go name (.flagging plan) (.placed (s.ticket name) session.registry.current)
  | .flagging plan, _ =>
      { s with session := setInitialized s.session plan.isSome }.go name (.unlocking .done)
        (.flagged (s.ticket name) plan)
  | .looking, _ =>
      match s.session.registry.current with
      | some id => s.go name (.leaving (some id)) (.found (s.ticket name) id)
      | none => s.go name (.leaving none) (.missed (s.ticket name))
  | .leaving (some id), _ =>
      { s with readers := s.readers.erase name }.go name (.returning (.handle id))
        (.unlocked (s.ticket name))
  | .leaving none, _ =>
      { s with readers := s.readers.erase name }.go name .missing (.unlocked (s.ticket name))
  | .missing, _ => s.lockToWrite name .filling
  | .filling, _ =>
      match s.session.registry.current with
      | some id => s.go name (.unlocking (.handle id)) (.found (s.ticket name) id)
      | none =>
          let (id, session) := s.session.shared
          { s with session }.go name (.unlocking (.handle id)) (.made (s.ticket name) id)
  | .unlocking answer, _ =>
      { s with writer := none }.go name (.returning answer) (.unlocked (s.ticket name))
  | .returning answer, todo =>
      s.put name ⟨.idle, (s.callers name).ended + 1, todo⟩ (.ended (s.ticket name) answer)

def run (s : SharedRegistry Name) (schedule : List Name) : SharedRegistry Name :=
  schedule.foldl turn s

/-- Turns of one thread alone lead to a state with some property. -/
def Leads (name : Name) (s : SharedRegistry Name) (goal : SharedRegistry Name → Prop) : Prop :=
  ∃ n, goal (s.run (List.replicate n name))

/-- A thread has got an answer, and the lock is free. -/
structure Answered (callers : Name → Caller) (name : Name) (ended : Nat) (todo : List Request)
    (session : Session) (answer : Answer) (s : SharedRegistry Name) : Prop where
  session : s.session = session
  writer : s.writer = none
  readers : s.readers = []
  callers : s.callers = Function.update callers name ⟨.idle, ended + 1, todo⟩
  answer : s.history.getLast? = some (.ended (name, ended) answer)

section Solo

variable {s : SharedRegistry Name} {name : Name} {callers : Name → Caller} {ended : Nat}
  {todo : List Request} {answer : Answer}

theorem leads_of_turn {goal : SharedRegistry Name → Prop} (h : Leads name (s.turn name) goal) :
    Leads name s goal := by
  obtain ⟨n, hn⟩ := h
  exact ⟨n + 1, hn⟩

/-- A thread that goes on with its request stays at it. -/
theorem callers_go {stage stage' : Stage} {mark : Registry.Mark Name}
    (h : s.callers = Function.update callers name ⟨stage, ended, todo⟩) :
    (s.go name stage' mark).callers = Function.update callers name ⟨stage', ended, todo⟩ := by
  simp [go, put, h]

theorem leads_of_returning (hwriter : s.writer = none) (hreaders : s.readers = [])
    (h : s.callers = Function.update callers name ⟨.returning answer, ended, todo⟩) :
    Leads name s (Answered callers name ended todo s.session answer) := by
  have hturn : s.turn name =
      s.put name ⟨.idle, ended + 1, todo⟩ (.ended (name, ended) answer) := by
    simp [turn, h, ticket]
  refine leads_of_turn ⟨0, ?_⟩
  rw [hturn]
  exact ⟨rfl, hwriter, hreaders, by simp [run, put, h], by simp [run, put]⟩

theorem leads_of_unlocking (hreaders : s.readers = [])
    (h : s.callers = Function.update callers name ⟨.unlocking answer, ended, todo⟩) :
    Leads name s (Answered callers name ended todo s.session answer) := by
  have hturn : s.turn name =
      { s with writer := none }.go name (.returning answer) (.unlocked (s.ticket name)) := by
    simp [turn, h]
  apply leads_of_turn
  rw [hturn]
  exact leads_of_returning rfl hreaders (callers_go h)

theorem leads_of_flagging {plan : Option SessionPlan} (hreaders : s.readers = [])
    (h : s.callers = Function.update callers name ⟨.flagging plan, ended, todo⟩) :
    Leads name s
      (Answered callers name ended todo (setInitialized s.session plan.isSome) .done) := by
  have hturn : s.turn name =
      { s with session := setInitialized s.session plan.isSome }.go name (.unlocking .done)
        (.flagged (s.ticket name) plan) := by
    simp [turn, h]
  apply leads_of_turn
  rw [hturn]
  exact leads_of_unlocking hreaders (callers_go h)

theorem leads_of_placing {plan : Option SessionPlan} (hreaders : s.readers = [])
    (h : s.callers = Function.update callers name ⟨.placing plan, ended, todo⟩) :
    Leads name s (Answered callers name ended todo (serve s.session (.change plan)).2
      (serve s.session (.change plan)).1) := by
  have hturn : s.turn name = { s with session := place s.session plan }.go name (.flagging plan)
      (.placed (s.ticket name) (place s.session plan).registry.current) := by
    simp [turn, h]
  apply leads_of_turn
  rw [hturn, serve_change]
  exact leads_of_flagging hreaders (callers_go h)

theorem leads_of_filling (hreaders : s.readers = [])
    (h : s.callers = Function.update callers name ⟨.filling, ended, todo⟩) :
    Leads name s (Answered callers name ended todo (serve s.session .shared).2
      (serve s.session .shared).1) := by
  apply leads_of_turn
  cases hcurrent : s.session.registry.current with
  | some id =>
      have hturn : s.turn name =
          s.go name (.unlocking (.handle id)) (.found (s.ticket name) id) := by
        simp [turn, h, hcurrent]
      rw [hturn, serve_shared_of_some hcurrent]
      exact leads_of_unlocking hreaders (callers_go h)
  | none =>
      have hturn : s.turn name = { s with session := s.session.shared.2 }.go name
          (.unlocking (.handle s.session.shared.1))
          (.made (s.ticket name) s.session.shared.1) := by
        simp [turn, h, hcurrent]
      rw [hturn]
      exact leads_of_unlocking hreaders (callers_go h)

theorem leads_of_missing (hwriter : s.writer = none) (hreaders : s.readers = [])
    (h : s.callers = Function.update callers name ⟨.missing, ended, todo⟩) :
    Leads name s (Answered callers name ended todo (serve s.session .shared).2
      (serve s.session .shared).1) := by
  have hturn : s.turn name =
      { s with writer := some name }.go name .filling (.locked (s.ticket name)) := by
    simp [turn, h, lockToWrite, hwriter, hreaders]
  apply leads_of_turn
  rw [hturn]
  exact leads_of_filling hreaders (callers_go h)

theorem leads_of_leaving_some {id : LoggerId} (hwriter : s.writer = none)
    (hreaders : s.readers = [name])
    (h : s.callers = Function.update callers name ⟨.leaving (some id), ended, todo⟩) :
    Leads name s (Answered callers name ended todo s.session (.handle id)) := by
  have hturn : s.turn name = { s with readers := [] }.go name (.returning (.handle id))
      (.unlocked (s.ticket name)) := by
    simp [turn, h, hreaders]
  apply leads_of_turn
  rw [hturn]
  exact leads_of_returning hwriter rfl (callers_go h)

theorem leads_of_leaving_none (hwriter : s.writer = none) (hreaders : s.readers = [name])
    (h : s.callers = Function.update callers name ⟨.leaving none, ended, todo⟩) :
    Leads name s (Answered callers name ended todo (serve s.session .shared).2
      (serve s.session .shared).1) := by
  have hturn : s.turn name =
      { s with readers := [] }.go name .missing (.unlocked (s.ticket name)) := by
    simp [turn, h, hreaders]
  apply leads_of_turn
  rw [hturn]
  exact leads_of_missing hwriter rfl (callers_go h)

theorem leads_of_looking (hwriter : s.writer = none) (hreaders : s.readers = [name])
    (h : s.callers = Function.update callers name ⟨.looking, ended, todo⟩) :
    Leads name s (Answered callers name ended todo (serve s.session .shared).2
      (serve s.session .shared).1) := by
  apply leads_of_turn
  cases hcurrent : s.session.registry.current with
  | some id =>
      have hlook : s.turn name = s.go name (.leaving (some id)) (.found (s.ticket name) id) := by
        simp [turn, h, hcurrent]
      rw [hlook, serve_shared_of_some hcurrent]
      exact leads_of_leaving_some hwriter hreaders (callers_go h)
  | none =>
      have hlook : s.turn name = s.go name (.leaving none) (.missed (s.ticket name)) := by
        simp [turn, h, hcurrent]
      rw [hlook]
      exact leads_of_leaving_none hwriter hreaders (callers_go h)

theorem leads_of_locking {plan : Option SessionPlan} (hreaders : s.readers = [])
    (h : s.callers = Function.update callers name ⟨.begun (.change plan), ended, todo⟩)
    (hlock : s.turn name =
      { s with writer := some name }.go name (.placing plan) (.locked (s.ticket name))) :
    Leads name s (Answered callers name ended todo (serve s.session (.change plan)).2
      (serve s.session (.change plan)).1) := by
  apply leads_of_turn
  rw [hlock]
  exact leads_of_placing hreaders (callers_go h)

theorem leads_of_begun {request : Request} (hwriter : s.writer = none) (hreaders : s.readers = [])
    (h : s.callers = Function.update callers name ⟨.begun request, ended, todo⟩) :
    Leads name s (Answered callers name ended todo (serve s.session request).2
      (serve s.session request).1) := by
  cases request with
  | install plan =>
      refine @leads_of_locking _ _ s name callers ended todo (some plan) hreaders h ?_
      simp [turn, h, lockToWrite, hwriter, hreaders]
  | reset =>
      refine @leads_of_locking _ _ s name callers ended todo none hreaders h ?_
      simp [turn, h, lockToWrite, hwriter, hreaders]
  | shared =>
      have hlock : s.turn name =
          { s with readers := [name] }.go name .looking (.locked (s.ticket name)) := by
        simp [turn, h, lockToRead, hwriter, hreaders]
      apply leads_of_turn
      rw [hlock]
      exact leads_of_looking hwriter rfl (callers_go h)
  | initialized =>
      have hload : s.turn name =
          s.go name (.returning (.flag s.session.registry.initialized))
            (.loaded (s.ticket name) s.session.registry.initialized) := by
        simp [turn, h]
      apply leads_of_turn
      rw [hload]
      exact leads_of_returning hwriter hreaders (callers_go h)

/-- While the lock is free, a thread alone gets the answer that the registry gives, and the lock
is free again. -/
theorem leads_of_request {request : Request} (hwriter : s.writer = none)
    (hreaders : s.readers = [])
    (h : s.callers = Function.update callers name ⟨.idle, ended, request :: todo⟩) :
    Leads name s (Answered callers name ended todo (serve s.session request).2
      (serve s.session request).1) := by
  have hbegin : s.turn name =
      s.put name ⟨.begun request, ended, todo⟩ (.began (name, ended) request) := by
    simp [turn, h, ticket]
  apply leads_of_turn
  rw [hbegin]
  exact leads_of_begun hwriter hreaders (by simp [put, h])

end Solo

end SharedRegistry

end Logbook
