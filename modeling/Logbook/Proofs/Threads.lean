/-
Threads that share a logger.  A call looks at the threshold before it takes the lock.  With the
lock held the record takes its number, the line is printed and the transport is called; then the
lock is given back, also behind a fault.  A change of a setting takes the lock, makes the change
and gives the lock back.

Each of these is one turn of one thread, and a list of moves says whose turn is next.  A thread
that waits for the lock, or has nothing left to do, wastes its turn.  A call to a transport takes
two turns, so that others may come in between.  The history keeps what happened, in its order.
Main statements: `leads_of_call` and `leads_of_set`, a thread alone does with a call or a change
what the logger does with it.
-/
import Logbook.Logger
import Mathlib.Logic.Function.Basic

namespace Logbook

/-- A change of a setting of a logger. -/
inductive Setting (T : Type) where
  | minLevel (level : Level)
  | localOutput (on : Bool)
  | remoteOutput (on : Bool)
  | transport (target : Option T)

def Setting.apply {C T : Type} (logger : Logger C T) : Setting T → Logger C T
  | .minLevel level => logger.setMinLevel level
  | .localOutput on => logger.setLocalOutput on
  | .remoteOutput on => logger.setRemoteOutput on
  | .transport target => logger.setTransport target

@[simp] theorem Setting.apply_nextSeq {C T : Type} (logger : Logger C T) (setting : Setting T) :
    (setting.apply logger).nextSeq = logger.nextSeq := by
  cases setting <;> rfl

@[simp] theorem Setting.apply_nodeName {C T : Type} (logger : Logger C T) (setting : Setting T) :
    (setting.apply logger).nodeName = logger.nodeName := by
  cases setting <;> rfl

/-- What a thread does with a logger. -/
inductive Task (T : Type) where
  | log (call : Call)
  | set (setting : Setting T)

/-- How far a thread has come with its task. -/
inductive Phase (T : Type) where
  /-- It has no task, or has not begun with it. -/
  | idle
  /-- Its call is accepted and waits for the lock. -/
  | waiting (call : Call)
  /-- It has the lock, and its call is due to take a number. -/
  | numbering (call : Call)
  /-- The line of its record is due. -/
  | printing (record : Record)
  /-- The call to the transport is due. -/
  | sending (record : Record)
  /-- It is inside the transport. -/
  | delivering (transport : T) (record : Record)
  /-- It has the lock, and its change is due. -/
  | changing (setting : Setting T)
  /-- It has the lock and is done. -/
  | releasing

/-- A thread in this phase has the lock. -/
def Phase.holds {T : Type} : Phase T → Bool
  | .idle => false
  | .waiting _ => false
  | _ => true

/-- A thread: how far it has come with its task, and the tasks behind that one. -/
structure Thread (T : Type) where
  phase : Phase T
  todo : List (Task T)

/-- What happened, and in which thread. -/
inductive Mark (Name T : Type) where
  /-- A call was held against the threshold. -/
  | checked (thread : Name) (call : Call) (accepted : Bool)
  /-- The lock was taken for a task. -/
  | locked (thread : Name) (task : Task T)
  /-- A call became a record. -/
  | numbered (thread : Name) (call : Call) (record : Record)
  /-- A line was printed, whole or up to a fault. -/
  | printed (thread : Name) (record : Record) (whole : Bool)
  /-- The console was switched off. -/
  | unprinted (thread : Name) (record : Record)
  /-- A transport was called. -/
  | entered (thread : Name) (transport : T) (record : Record)
  /-- A transport returned or raised a fault. -/
  | left (thread : Name) (returned : Bool)
  /-- There was no transport, or it was switched off. -/
  | unsent (thread : Name) (record : Record)
  /-- A setting was changed. -/
  | changed (thread : Name) (setting : Setting T)
  /-- The lock was given back. -/
  | released (thread : Name)

/-- A logger that threads share, who has its lock, and what happened so far. -/
structure Shared (Name C T World : Type) where
  logger : Logger C T
  world : World
  owner : Option Name
  threads : Name → Thread T
  history : List (Mark Name T)

/-- What a schedule is made of: a turn of a thread, with a clock reading, or a change of the world
that no thread makes. -/
inductive Move (Name World : Type) where
  | turn (thread : Name) (stamp : Stamp)
  | outside (change : World → World)

namespace Shared

variable {Name C T World : Type}

/-- Threads with their programs, before their first turn. -/
def begin (programs : Name → List (Task T)) (logger : Logger C T) (world : World) :
    Shared Name C T World where
  logger := logger
  world := world
  owner := none
  threads name := ⟨.idle, programs name⟩
  history := []

variable [DecidableEq Name]

/-- Moves a thread on, and notes what happened. -/
def put (s : Shared Name C T World) (name : Name) (thread : Thread T) (mark : Mark Name T) :
    Shared Name C T World :=
  { s with threads := Function.update s.threads name thread, history := s.history ++ [mark] }

/-- One turn of a thread. -/
def turn (outlets : Outlets C T World) (name : Name) (stamp : Stamp)
    (s : Shared Name C T World) : Shared Name C T World :=
  match (s.threads name).phase, (s.threads name).todo with
  | .idle, [] => s
  | .idle, .log call :: rest =>
      if s.logger.enabled call.level then s.put name ⟨.waiting call, rest⟩ (.checked name call true)
      else s.put name ⟨.idle, rest⟩ (.checked name call false)
  | .idle, .set setting :: rest =>
      match s.owner with
      | some _ => s
      | none =>
          { s with owner := some name }.put name ⟨.changing setting, rest⟩
            (.locked name (.set setting))
  | .waiting call, todo =>
      match s.owner with
      | some _ => s
      | none =>
          { s with owner := some name }.put name ⟨.numbering call, todo⟩ (.locked name (.log call))
  | .numbering call, todo =>
      let (record, logger) := s.logger.number stamp call
      { s with logger }.put name ⟨.printing record, todo⟩ (.numbered name call record)
  | .printing record, todo =>
      if s.logger.localOutput then
        match outlets.print s.logger.console (s.logger.linePieces record) s.world with
        | .ok _ world =>
            { s with world }.put name ⟨.sending record, todo⟩ (.printed name record true)
        | .error _ world =>
            { s with world }.put name ⟨.releasing, todo⟩ (.printed name record false)
      else s.put name ⟨.sending record, todo⟩ (.unprinted name record)
  | .sending record, todo =>
      match s.logger.route with
      | some transport =>
          s.put name ⟨.delivering transport record, todo⟩ (.entered name transport record)
      | none => s.put name ⟨.releasing, todo⟩ (.unsent name record)
  | .delivering transport record, todo =>
      match outlets.deliver transport record s.world with
      | .ok _ world => { s with world }.put name ⟨.releasing, todo⟩ (.left name true)
      | .error _ world => { s with world }.put name ⟨.releasing, todo⟩ (.left name false)
  | .changing setting, todo =>
      { s with logger := setting.apply s.logger }.put name ⟨.releasing, todo⟩
        (.changed name setting)
  | .releasing, todo => { s with owner := none }.put name ⟨.idle, todo⟩ (.released name)

def move (outlets : Outlets C T World) (s : Shared Name C T World) :
    Move Name World → Shared Name C T World
  | .turn name stamp => s.turn outlets name stamp
  | .outside change => { s with world := change s.world }

def run (outlets : Outlets C T World) (s : Shared Name C T World)
    (schedule : List (Move Name World)) : Shared Name C T World :=
  schedule.foldl (move outlets) s

/-- Turns of one thread alone lead to a state with some property. -/
def Leads (outlets : Outlets C T World) (name : Name) (stamp : Stamp) (s : Shared Name C T World)
    (goal : Shared Name C T World → Prop) : Prop :=
  ∃ n, goal (s.run outlets (List.replicate n (.turn name stamp)))

/-- A thread has come to the end of its task, and the lock is free. -/
structure Finished (threads : Name → Thread T) (name : Name) (todo : List (Task T))
    (logger : Logger C T) (world : World) (s : Shared Name C T World) : Prop where
  owner : s.owner = none
  threads : s.threads = Function.update threads name ⟨.idle, todo⟩
  logger : s.logger = logger
  world : s.world = world

section Solo

variable {outlets : Outlets C T World} {s : Shared Name C T World} {name : Name} {stamp : Stamp}
  {record : Record} {threads : Name → Thread T} {todo : List (Task T)}

theorem leads_of_turn {goal : Shared Name C T World → Prop}
    (h : (s.turn outlets name stamp).Leads outlets name stamp goal) :
    s.Leads outlets name stamp goal := by
  obtain ⟨n, hn⟩ := h
  exact ⟨n + 1, hn⟩

theorem leads_of_releasing (h : s.threads = Function.update threads name ⟨.releasing, todo⟩) :
    s.Leads outlets name stamp (Finished threads name todo s.logger s.world) := by
  have hturn : s.turn outlets name stamp =
      { s with owner := none }.put name ⟨.idle, todo⟩ (.released name) := by
    simp [turn, h]
  refine leads_of_turn ⟨0, ?_⟩
  rw [hturn]
  exact ⟨rfl, by simp [run, put, h], rfl, rfl⟩

theorem leads_of_changing {setting : Setting T}
    (h : s.threads = Function.update threads name ⟨.changing setting, todo⟩) :
    s.Leads outlets name stamp
      (Finished threads name todo (setting.apply s.logger) s.world) := by
  have hturn : s.turn outlets name stamp =
      { s with logger := setting.apply s.logger }.put name ⟨.releasing, todo⟩
        (.changed name setting) := by
    simp [turn, h]
  apply leads_of_turn
  rw [hturn]
  exact leads_of_releasing (by simp [put, h])

theorem leads_of_delivering {transport : T}
    (h : s.threads = Function.update threads name ⟨.delivering transport record, todo⟩) :
    s.Leads outlets name stamp (Finished threads name todo s.logger
      ((outlets.deliver transport record).outcome s.world).2) := by
  apply leads_of_turn
  cases hdeliver : outlets.deliver transport record s.world with
  | ok value world =>
      have hturn : s.turn outlets name stamp =
          { s with world }.put name ⟨.releasing, todo⟩ (.left name true) := by
        simp [turn, h, hdeliver]
      rw [hturn, Effect.outcome_of_ok hdeliver]
      exact leads_of_releasing (by simp [put, h])
  | error fault world =>
      have hturn : s.turn outlets name stamp =
          { s with world }.put name ⟨.releasing, todo⟩ (.left name false) := by
        simp [turn, h, hdeliver]
      rw [hturn, Effect.outcome_of_error hdeliver]
      exact leads_of_releasing (by simp [put, h])

theorem leads_of_sending (h : s.threads = Function.update threads name ⟨.sending record, todo⟩) :
    s.Leads outlets name stamp (Finished threads name todo s.logger
      ((s.logger.send outlets record).outcome s.world).2) := by
  apply leads_of_turn
  cases hroute : s.logger.route with
  | none =>
      have hturn : s.turn outlets name stamp =
          s.put name ⟨.releasing, todo⟩ (.unsent name record) := by
        simp [turn, h, hroute]
      simp only [hturn, Logger.send, hroute]
      exact leads_of_releasing (by simp [put, h])
  | some transport =>
      have hturn : s.turn outlets name stamp =
          s.put name ⟨.delivering transport record, todo⟩ (.entered name transport record) := by
        simp [turn, h, hroute]
      simp only [hturn, Logger.send, hroute]
      exact leads_of_delivering (by simp [put, h])

theorem leads_of_printing (h : s.threads = Function.update threads name ⟨.printing record, todo⟩) :
    s.Leads outlets name stamp (Finished threads name todo s.logger
      ((s.logger.emit outlets record).outcome s.world).2) := by
  apply leads_of_turn
  cases hlocal : s.logger.localOutput with
  | false =>
      have hturn : s.turn outlets name stamp =
          s.put name ⟨.sending record, todo⟩ (.unprinted name record) := by
        simp [turn, h, hlocal]
      have hemit : s.logger.emit outlets record = s.logger.send outlets record := by
        simp [Logger.emit, Logger.print, hlocal]
      rw [hturn, hemit]
      exact leads_of_sending (by simp [put, h])
  | true =>
      have hprinter : s.logger.print outlets record =
          outlets.print s.logger.console (s.logger.linePieces record) := by
        simp [Logger.print, hlocal]
      rw [Logger.emit, hprinter]
      cases hprint : outlets.print s.logger.console (s.logger.linePieces record) s.world with
      | ok value world =>
          have hturn : s.turn outlets name stamp =
              { s with world }.put name ⟨.sending record, todo⟩ (.printed name record true) := by
            simp [turn, h, hlocal, hprint]
          rw [hturn, Effect.outcome_bind_of_ok (Effect.outcome_of_ok hprint)]
          exact leads_of_sending (by simp [put, h])
      | error fault world =>
          have hturn : s.turn outlets name stamp =
              { s with world }.put name ⟨.releasing, todo⟩ (.printed name record false) := by
            simp [turn, h, hlocal, hprint]
          rw [hturn, Effect.outcome_bind_of_error (Effect.outcome_of_error hprint)]
          exact leads_of_releasing (by simp [put, h])

theorem leads_of_numbering {call : Call}
    (h : s.threads = Function.update threads name ⟨.numbering call, todo⟩) :
    s.Leads outlets name stamp (Finished threads name todo (s.logger.number stamp call).2
      (((s.logger.number stamp call).2.emit outlets (s.logger.number stamp call).1).outcome
        s.world).2) := by
  have hturn : s.turn outlets name stamp =
      { s with logger := (s.logger.number stamp call).2 }.put name
        ⟨.printing (s.logger.number stamp call).1, todo⟩
        (.numbered name call (s.logger.number stamp call).1) := by
    simp [turn, h]
  apply leads_of_turn
  rw [hturn]
  exact leads_of_printing (by simp [put, h])

/-- While the lock is free, a thread alone does with a call what the logger does with it, and the
lock is free again. -/
theorem leads_of_call {call : Call} (hfree : s.owner = none)
    (h : s.threads = Function.update threads name ⟨.idle, .log call :: todo⟩) :
    s.Leads outlets name stamp (Finished threads name todo
      (((s.logger.accept? stamp call).map Prod.snd).getD s.logger)
      ((s.logger.log outlets (fun _ world => world) stamp call).outcome s.world).2) := by
  cases henabled : s.logger.enabled call.level with
  | false =>
      have hturn : s.turn outlets name stamp =
          s.put name ⟨.idle, todo⟩ (.checked name call false) := by
        simp [turn, h, henabled]
      refine leads_of_turn ⟨0, ?_⟩
      simp only [hturn, Logger.accept?, Logger.log, henabled]
      exact ⟨hfree, by simp [run, put, h], rfl, rfl⟩
  | true =>
      have hcheck : s.turn outlets name stamp =
          s.put name ⟨.waiting call, todo⟩ (.checked name call true) := by
        simp [turn, h, henabled]
      have hlock : (s.put name ⟨.waiting call, todo⟩ (.checked name call true)).turn outlets name
          stamp = { s.put name ⟨.waiting call, todo⟩ (.checked name call true) with
            owner := some name }.put name ⟨.numbering call, todo⟩ (.locked name (.log call)) := by
        simp [turn, put, hfree]
      apply leads_of_turn
      rw [hcheck]
      apply leads_of_turn
      rw [hlock]
      simp only [Logger.accept?, Logger.log, henabled]
      exact leads_of_numbering (by simp [put, h])

/-- While the lock is free, a thread alone changes a setting as the logger does, and the lock is
free again. -/
theorem leads_of_set {setting : Setting T} (hfree : s.owner = none)
    (h : s.threads = Function.update threads name ⟨.idle, .set setting :: todo⟩) :
    s.Leads outlets name stamp
      (Finished threads name todo (setting.apply s.logger) s.world) := by
  have hturn : s.turn outlets name stamp =
      { s with owner := some name }.put name ⟨.changing setting, todo⟩
        (.locked name (.set setting)) := by
    simp [turn, h, hfree]
  apply leads_of_turn
  rw [hturn]
  exact leads_of_changing (by simp [put, h])

end Solo

end Shared

end Logbook
