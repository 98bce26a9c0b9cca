/-
A sink for lines of JSON that loggers share.  Each of the loggers is called by any number of
threads and has a lock of its own, so at most one thread of each comes to the sink.  The sink has
a lock too.  Inside it a thread makes one call to the writer after the other, and every call is a
turn of its own, so that all other threads may come in between.  Main statements: `leads_put`, a
thread that is inside does to the writer what putting a record on it does, and `run_of_arrival`, a
thread that comes to the sink alone leaves it behind such a call.
-/
import Logbook.JsonLines
import Logbook.Proofs.Threads
import Logbook.Proofs.Tape
import Mathlib.Logic.Function.Iterate

namespace Logbook

namespace JsonLines

/-- How far a thread has come inside the sink. -/
inductive Stage where
  /-- It has still to write these pieces. -/
  | writing (left : List (List UInt8))
  | flushing
  /-- It is done, or has failed, or a fault was raised. -/
  | leaving (answer : Except Fault (Except String Unit))

namespace Stage

variable {Place : Type} (writer : Writer Place)

/-- One call to the writer.  A piece that is written makes way for the next one. -/
def step : Stage × Place → Stage × Place
  | (.writing [], place) => (.flushing, place)
  | (.writing ([] :: rest), place) => (.writing rest, place)
  | (.writing ((first :: more) :: rest), place) =>
      match (writer.write (first :: more)).outcome place with
      | (.error fault, place) => (.leaving (.error fault), place)
      | (.ok (.error reason), place) => (.leaving (.ok (.error reason)), place)
      | (.ok (.ok 0), place) => (.leaving (.ok (.error Writer.stalled)), place)
      | (.ok (.ok (n + 1)), place) => (.writing (more.drop n :: rest), place)
  | (.flushing, place) =>
      let (answer, place) := writer.flush.outcome place
      (.leaving answer, place)
  | (.leaving answer, place) => (.leaving answer, place)

/-- The stage behind an answer: the next one when all went well. -/
def behind (next : Stage) : Except Fault (Except String Unit) → Stage
  | .ok (.ok ()) => next
  | answer => .leaving answer

/-- Some steps lead from one stage to another. -/
def Leads (first last : Stage × Place) : Prop :=
  ∃ n, (step writer)^[n] first = last

variable {writer}

theorem leads_of_step {first last : Stage × Place} (h : Leads writer (step writer first) last) :
    Leads writer first last := by
  obtain ⟨n, hn⟩ := h
  exact ⟨n + 1, hn⟩

theorem Leads.trans {first second third : Stage × Place} (h : Leads writer first second)
    (h' : Leads writer second third) : Leads writer first third := by
  obtain ⟨n, hn⟩ := h
  obtain ⟨m, hm⟩ := h'
  exact ⟨m + n, by rw [Function.iterate_add_apply, hn, hm]⟩

theorem leads_writeAll (given : List UInt8) (rest : List (List UInt8)) (place : Place) :
    Leads writer (.writing (given :: rest), place)
      (behind (.writing rest) ((writer.writeAll given).outcome place).1,
        ((writer.writeAll given).outcome place).2) := by
  have hgoes := writer.goes_writeAll given place
  generalize (writer.writeAll given).outcome place = outcome at hgoes
  induction hgoes with
  | done place => exact ⟨1, rfl⟩
  | raised h => exact ⟨1, by simp [step, h, behind]⟩
  | failed h => exact ⟨1, by simp [step, h, behind]⟩
  | stalled h => exact ⟨1, by simp [step, h, behind]⟩
  | more h hrest ih =>
      apply leads_of_step
      simp only [step, h]
      exact ih

theorem leads_writePieces (pieces : List (List UInt8)) (place : Place) :
    Leads writer (.writing pieces, place)
      (behind .flushing ((writer.writePieces pieces).outcome place).1,
        ((writer.writePieces pieces).outcome place).2) := by
  induction pieces generalizing place with
  | nil => exact ⟨1, rfl⟩
  | cons piece rest ih =>
      have hpiece : Leads writer (.writing (piece :: rest), place) _ :=
        leads_writeAll piece rest place
      rw [Writer.writePieces]
      rcases houtcome : (writer.writeAll piece).outcome place with ⟨answer, place'⟩
      rw [houtcome] at hpiece
      rcases answer with fault | reason | done
      · rw [Effect.outcome_bind_of_error houtcome]
        exact hpiece
      · rw [Effect.outcome_bind_of_ok houtcome]
        exact hpiece
      · rw [Effect.outcome_bind_of_ok houtcome]
        exact hpiece.trans (ih place')

/-- Alone with the writer, a thread inside does what putting a record on it does. -/
theorem leads_put (record : Record) (place : Place) :
    Leads writer (.writing (pieces record), place)
      (.leaving ((put writer record).outcome place).1, ((put writer record).outcome place).2) := by
  have hpieces : Leads writer (.writing (pieces record), place) _ :=
    leads_writePieces (pieces record) place
  rw [put]
  rcases houtcome : (writer.writePieces (pieces record)).outcome place with ⟨answer, place'⟩
  rw [houtcome] at hpieces
  rcases answer with fault | reason | done
  · rw [Effect.outcome_bind_of_error houtcome]
    exact hpieces
  · rw [Effect.outcome_bind_of_ok houtcome]
    exact hpieces
  · rw [Effect.outcome_bind_of_ok houtcome]
    exact hpieces.trans ⟨1, rfl⟩

end Stage

/-- The thread that has the lock of the sink, the record it came with, and how far it has come. -/
structure Occupant (Key Name : Type) where
  key : Key
  name : Name
  record : Record
  stage : Stage

end JsonLines

/-- Loggers that share a sink, the place that its writer leads to, who has its lock, the records
for which the lock was taken, in order, and the events of those that were lost. -/
structure SharedSink (Key Name C T World Place : Type) where
  loggers : Key → Shared Name C T World
  place : Place
  occupant : Option (JsonLines.Occupant Key Name) := none
  published : List (Key × Record) := []
  events : List Event := []

/-- What a schedule is made of: a turn of a thread of one of the loggers, with a clock reading, or
a change of the world of a logger that no thread of it makes. -/
inductive SinkMove (Key Name World : Type) where
  | turn (key : Key) (name : Name) (stamp : Stamp)
  | outside (key : Key) (change : World → World)

namespace SharedSink

open JsonLines

variable {Key Name C T World Place : Type}

/-- Loggers and threads with their programs, before the first turn. -/
def begin (programs : Key → Name → List (Task T)) (loggers : Key → Logger C T)
    (worlds : Key → World) (place : Place) : SharedSink Key Name C T World Place where
  loggers key := Shared.begin (programs key) (loggers key) (worlds key)
  place := place

section PutLogger

variable [DecidableEq Key] (s : SharedSink Key Name C T World Place) (key : Key)
  (logger : Shared Name C T World)

def putLogger : SharedSink Key Name C T World Place :=
  { s with loggers := Function.update s.loggers key logger }

@[simp] theorem loggers_putLogger_self : (s.putLogger key logger).loggers key = logger :=
  Function.update_self ..

theorem loggers_putLogger_of_ne {key other : Key} (h : other ≠ key) :
    (s.putLogger key logger).loggers other = s.loggers other :=
  Function.update_of_ne h ..

@[simp] theorem occupant_putLogger : (s.putLogger key logger).occupant = s.occupant := rfl

@[simp] theorem published_putLogger : (s.putLogger key logger).published = s.published := rfl

end PutLogger

variable [DecidableEq Key] [DecidableEq Name] [DecidableEq T]

/-- The outlets of a logger for a thread that leaves the sink. -/
def answering (outlets : Outlets C T World) (answer : Except Fault (Except String Unit)) :
    Outlets C T World where
  print := outlets.print
  deliver _ _ := match answer with
    | .ok _ => pure ()
    | .error fault => throw fault

/-- What a thread tells of a record when it leaves the sink. -/
def lossOf (record : Record) : Except Fault (Except String Unit) → List Event
  | .ok (.error reason) => [.lost record.seq reason]
  | _ => []

variable (writer : Writer Place) (sink : T) (outlets : Key → Outlets C T World)

/-- One turn of a thread that has come to the sink: it takes the lock, it makes a call to the
writer, or it gives the lock back and goes on with its task. -/
def sinkTurn (key : Key) (name : Name) (stamp : Stamp) (record : Record)
    (s : SharedSink Key Name C T World Place) : SharedSink Key Name C T World Place :=
  match s.occupant with
  | none => { s with
      occupant := some ⟨key, name, record, .writing (pieces record)⟩
      published := s.published ++ [(key, record)] }
  | some occupant =>
      if occupant.key = key ∧ occupant.name = name then
        match occupant.stage with
        | .leaving answer =>
            { s with occupant := none, events := s.events ++ lossOf record answer }.putLogger key
              ((s.loggers key).turn (answering (outlets key) answer) name stamp)
        | stage =>
            let (stage, place) := Stage.step writer (stage, s.place)
            { s with place, occupant := some { occupant with stage } }
      else s

/-- One turn of a thread.  Transports other than the sink, and consoles, are in the world of their
logger. -/
def turn (key : Key) (name : Name) (stamp : Stamp) (s : SharedSink Key Name C T World Place) :
    SharedSink Key Name C T World Place :=
  match ((s.loggers key).threads name).phase with
  | .delivering transport record =>
      if transport = sink then s.sinkTurn writer outlets key name stamp record
      else s.putLogger key ((s.loggers key).turn (outlets key) name stamp)
  | _ => s.putLogger key ((s.loggers key).turn (outlets key) name stamp)

def move (s : SharedSink Key Name C T World Place) :
    SinkMove Key Name World → SharedSink Key Name C T World Place
  | .turn key name stamp => s.turn writer sink outlets key name stamp
  | .outside key change =>
      s.putLogger key { s.loggers key with world := change (s.loggers key).world }

def run (s : SharedSink Key Name C T World Place) (schedule : List (SinkMove Key Name World)) :
    SharedSink Key Name C T World Place :=
  schedule.foldl (move writer sink outlets) s

/-- What a thread that comes to the sink leaves when nobody comes in between. -/
def after (key : Key) (name : Name) (stamp : Stamp) (record : Record)
    (s : SharedSink Key Name C T World Place) : SharedSink Key Name C T World Place :=
  let (answer, place) := (put writer record).outcome s.place
  { s with
    place
    published := s.published ++ [(key, record)]
    events := s.events ++ lossOf record answer }.putLogger key
      ((s.loggers key).turn (answering (outlets key) answer) name stamp)

section Alone

variable {writer sink outlets} {s : SharedSink Key Name C T World Place} {key : Key} {name : Name}
  {record : Record}

theorem turn_of_arrival (stamp : Stamp)
    (h : ((s.loggers key).threads name).phase = .delivering sink record) :
    s.turn writer sink outlets key name stamp =
      s.sinkTurn writer outlets key name stamp record := by
  simp [turn, h]

/-- A turn inside the sink is a step, until the thread is done. -/
theorem turn_of_inside (stamp : Stamp) {stage : Stage}
    (hphase : ((s.loggers key).threads name).phase = .delivering sink record)
    (hinside : s.occupant = some ⟨key, name, record, stage⟩)
    (hstage : ∀ answer, stage ≠ .leaving answer) :
    s.turn writer sink outlets key name stamp =
      { s with
        place := (Stage.step writer (stage, s.place)).2
        occupant := some ⟨key, name, record, (Stage.step writer (stage, s.place)).1⟩ } := by
  rw [turn_of_arrival stamp hphase, sinkTurn, hinside]
  cases stage with
  | writing left => simp
  | flushing => simp
  | leaving answer => exact absurd rfl (hstage answer)

theorem run_of_steps (stamp : Stamp) {stage : Stage} {place : Place}
    {answer : Except Fault (Except String Unit)} (n : Nat)
    (hphase : ((s.loggers key).threads name).phase = .delivering sink record)
    (hinside : s.occupant = some ⟨key, name, record, stage⟩)
    (hsteps : (Stage.step writer)^[n] (stage, s.place) = (.leaving answer, place)) :
    ∃ m, s.run writer sink outlets (List.replicate m (.turn key name stamp)) =
      { s with place, occupant := some ⟨key, name, record, .leaving answer⟩ } := by
  induction n generalizing s stage with
  | zero =>
      obtain ⟨rfl, rfl⟩ := Prod.mk.inj hsteps
      exact ⟨0, by rw [← hinside]; rfl⟩
  | succ n ih =>
      rw [Function.iterate_succ_apply] at hsteps
      by_cases hstage : ∃ answer, stage = .leaving answer
      · -- A thread that is done does not step any more.
        obtain ⟨answer', rfl⟩ := hstage
        exact ih hphase hinside hsteps
      · have hturn : s.turn writer sink outlets key name stamp = _ :=
          turn_of_inside stamp hphase hinside (by simpa using hstage)
        obtain ⟨m, hm⟩ := @ih { s with
          place := (Stage.step writer (stage, s.place)).2
          occupant := some ⟨key, name, record, (Stage.step writer (stage, s.place)).1⟩ } _
          hphase rfl hsteps
        have hrun : s.run writer sink outlets (List.replicate (m + 1) (.turn key name stamp)) =
            (s.turn writer sink outlets key name stamp).run writer sink outlets
              (List.replicate m (.turn key name stamp)) := rfl
        exact ⟨m + 1, by rw [hrun, hturn, hm]⟩

/-- A thread that comes to the sink while its lock is free leaves it by turns of its own. -/
theorem run_of_arrival (stamp : Stamp) (hfree : s.occupant = none)
    (hphase : ((s.loggers key).threads name).phase = .delivering sink record) :
    ∃ n, s.run writer sink outlets (List.replicate n (.turn key name stamp)) =
      s.after writer outlets key name stamp record := by
  let entered : SharedSink Key Name C T World Place := { s with
    occupant := some ⟨key, name, record, .writing (pieces record)⟩
    published := s.published ++ [(key, record)] }
  have hentered : s.turn writer sink outlets key name stamp = entered := by
    rw [turn_of_arrival stamp hphase, sinkTurn, hfree]
  let done : SharedSink Key Name C T World Place := { entered with
    place := ((put writer record).outcome s.place).2
    occupant := some ⟨key, name, record, .leaving ((put writer record).outcome s.place).1⟩ }
  have hdone : done.turn writer sink outlets key name stamp =
      s.after writer outlets key name stamp record := by
    have hthere : ((done.loggers key).threads name).phase = .delivering sink record := hphase
    rw [turn_of_arrival stamp hthere, sinkTurn]
    simp [done, entered, after, hfree]
  obtain ⟨n, hsteps⟩ : Stage.Leads writer _ _ := Stage.leads_put record s.place
  obtain ⟨m, hm⟩ : ∃ m, entered.run writer sink outlets
      (List.replicate m (.turn key name stamp)) = done :=
    run_of_steps stamp n hphase rfl hsteps
  have hrun : s.run writer sink outlets
      (.turn key name stamp :: (List.replicate m (.turn key name stamp) ++ [.turn key name stamp])) =
        ((s.turn writer sink outlets key name stamp).run writer sink outlets
          (List.replicate m (.turn key name stamp))).turn writer sink outlets key name stamp := by
    simp [run, move]
  refine ⟨m + 2, ?_⟩
  rw [List.replicate_succ, List.replicate_succ', hrun, hentered, hm, hdone]

end Alone

end SharedSink

end Logbook
