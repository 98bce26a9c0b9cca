/-
Threads that share a logger, with the transports left out of sight.  A blank logger has a
transport of which nothing is known, and the world of a blank state is that of the consoles alone.
What a transport does, and whether it raises a fault, can not be seen there.  Main statements:
`Shared.blank_turn`, a turn is the same without the transports, and `Shared.blank_run_eq`, with any
two transports the same turns lead to the same blank state.
-/
import Logbook.Proofs.Desk.Mishaps

namespace Logbook

variable {Name C T World P R : Type}

/-- A logger, without saying which transport it has. -/
def Logger.blank (logger : Logger C T) : Logger C Unit :=
  { logger with transport := logger.transport.map fun _ => () }

def Setting.blank : Setting T → Setting Unit
  | .minLevel level => .minLevel level
  | .localOutput on => .localOutput on
  | .remoteOutput on => .remoteOutput on
  | .transport target => .transport (target.map fun _ => ())

def Task.blank : Task T → Task Unit
  | .log call => .log call
  | .set setting => .set setting.blank

def Phase.blank : Phase T → Phase Unit
  | .idle => .idle
  | .waiting call => .waiting call
  | .numbering call => .numbering call
  | .printing record => .printing record
  | .sending record => .sending record
  | .delivering _ record => .delivering () record
  | .changing setting => .changing setting.blank
  | .releasing => .releasing

def Thread.blank (thread : Thread T) : Thread Unit :=
  ⟨thread.phase.blank, thread.todo.map Task.blank⟩

/-- A mark, without saying which transport was called and whether it returned. -/
def Mark.blank : Mark Name T → Mark Name Unit
  | .checked thread call accepted => .checked thread call accepted
  | .locked thread task => .locked thread task.blank
  | .numbered thread call record => .numbered thread call record
  | .printed thread record whole => .printed thread record whole
  | .unprinted thread record => .unprinted thread record
  | .entered thread _ record => .entered thread () record
  | .left thread _ => .left thread true
  | .unsent thread record => .unsent thread record
  | .changed thread setting => .changed thread setting.blank
  | .released thread => .released thread

@[simp] theorem Logger.route_blank (logger : Logger C T) :
    logger.blank.route = logger.route.map fun _ => () := by
  cases hremote : logger.remoteOutput <;> simp [Logger.route, Logger.blank, hremote]

@[simp] theorem Setting.apply_blank (logger : Logger C T) (setting : Setting T) :
    setting.blank.apply logger.blank = (setting.apply logger).blank := by
  cases setting with
  | transport target =>
      simp [Setting.blank, Setting.apply, Logger.setTransport, Logger.blank]
  | _ => rfl

section Quiet

variable (print : C → List (List UInt8) → Effect P Unit) (deliver : T → Record → Effect R Unit)
  {logger : Logger C T} {world : P × R}

theorem Logger.route_of_accept? {logger counted : Logger C T} {stamp : Stamp} {call : Call}
    {record : Record} (h : logger.accept? stamp call = some (record, counted)) :
    counted.route = logger.route := by
  unfold Logger.accept? at h
  split at h
  · cases h
    rfl
  · cases h

/-- Where the transport does nothing, a record comes to what it comes to without one. -/
theorem outcome_emit_beside (hquiet : ∀ transport record, logger.route = some transport →
      (deliver transport record).outcome world.2 = (.ok (), world.2)) (record : Record) :
    (logger.emit (beside print deliver) record).outcome world =
      (((logger.emit (printing (T := T) print) record).outcome world.1).1,
        ((logger.emit (printing (T := T) print) record).outcome world.1).2, world.2) := by
  have hsend : ∀ place, (logger.send (beside print deliver) record).outcome (place, world.2) =
      (.ok (), (place, world.2)) := by
    intro place
    rw [outcome_send_beside, Logger.send]
    split
    · next transport htransport =>
        change (((deliver transport record).outcome world.2).1,
          (place, ((deliver transport record).outcome world.2).2)) = _
        rw [hquiet transport record htransport]
    · rfl
  have hidle : ∀ place, (logger.send (printing (T := T) print) record).outcome place =
      (.ok (), place) := by
    intro place
    unfold Logger.send
    split <;> rfl
  have hprint := outcome_print_beside print deliver logger record world
  rw [Logger.emit, Logger.emit]
  rcases hline : (logger.print (printing (T := T) print) record).outcome world.1 with
    ⟨answer, place⟩
  rw [hline] at hprint
  cases answer with
  | error fault => rw [Effect.outcome_bind_of_error hprint, Effect.outcome_bind_of_error hline]
  | ok value =>
      rw [Effect.outcome_bind_of_ok hprint, Effect.outcome_bind_of_ok hline, hsend, hidle]

/-- What a call to a logger comes to when its transport does nothing. -/
def Logger.logUnheard (logger : Logger C T) (stamp : Stamp) (call : Call) (place : P) :
    Except Fault Unit × P :=
  (logger.log (printing print) (fun _ place => place) stamp call).outcome place

/-- Where the transport does nothing, a call does what it does without one. -/
theorem outcome_log_beside (hquiet : ∀ transport record, logger.route = some transport →
      (deliver transport record).outcome world.2 = (.ok (), world.2)) (stamp : Stamp)
    (call : Call) :
    (logger.log (beside print deliver) (fun _ world => world) stamp call).outcome world =
      ((logger.logUnheard print stamp call world.1).1,
        (logger.logUnheard print stamp call world.1).2, world.2) := by
  unfold Logger.logUnheard
  cases haccept : logger.accept? stamp call with
  | none =>
      simp only [Logger.log, haccept]
      rfl
  | some accepted =>
      obtain ⟨record, counted⟩ := accepted
      have hemit := outcome_emit_beside print deliver
        (Logger.route_of_accept? haccept ▸ hquiet : ∀ transport record,
          counted.route = some transport →
            (deliver transport record).outcome world.2 = (.ok (), world.2)) record
      simp only [Logger.log, haccept]
      rw [Effect.outcome_bind_of_ok (Effect.outcome_modify _ _),
        Effect.outcome_bind_of_ok (Effect.outcome_modify _ _), hemit]

end Quiet

/-- A turn of a schedule, for threads in another world. -/
def Move.turn? {Other : Type} : Move Name World → Option (Move Name Other)
  | .turn thread stamp => some (.turn thread stamp)
  | .outside _ => none

/-- A move that is not made by a thread leaves the consoles alone. -/
def Move.Spares : Move Name (P × R) → Prop
  | .turn _ _ => True
  | .outside change => ∀ world, (change world).1 = world.1

namespace Shared

/-- What is seen of a logger and its threads without the transports. -/
def blank (s : Shared Name C T (P × R)) : Shared Name C Unit P where
  logger := s.logger.blank
  world := s.world.1
  owner := s.owner
  threads name := (s.threads name).blank
  history := s.history.map Mark.blank

/-- Threads that do nothing but call loggers which look the same without their transports. -/
theorem blank_begin {T' R' : Type} (calls : Name → List Call) {start : Logger C T}
    {start' : Logger C T'} (h : start.blank = start'.blank) (place : P) (rest : R) (rest' : R') :
    (begin (fun name => (calls name).map .log) start (place, rest)).blank =
      (begin (fun name => (calls name).map .log) start' (place, rest')).blank := by
  simp only [blank, begin, h, Thread.blank, Phase.blank, List.map_map, List.map_nil]
  rfl

variable [DecidableEq Name]

@[simp] theorem blank_put (s : Shared Name C T (P × R)) (name : Name) (thread : Thread T)
    (mark : Mark Name T) :
    (s.put name thread mark).blank = s.blank.put name thread.blank mark.blank := by
  simp only [blank, put, List.map_append, List.map_singleton, mk.injEq, true_and, and_true]
  funext other
  by_cases h : other = name
  · subst h
    simp
  · simp [Function.update_of_ne h]

variable (print : C → List (List UInt8) → Effect P Unit) (deliver : T → Record → Effect R Unit)

/-- A turn is the same without the transports. -/
theorem blank_turn (s : Shared Name C T (P × R)) (name : Name) (stamp : Stamp) :
    (s.turn (beside print deliver) name stamp).blank =
      s.blank.turn (printing print) name stamp := by
  have hblank : s.blank.threads name = (s.threads name).blank := rfl
  rcases hthread : s.threads name with ⟨phase, todo⟩
  rw [hthread] at hblank
  cases phase with
  | idle =>
      rcases todo with - | ⟨call | setting, rest⟩
      · simp [turn, hthread, hblank, Thread.blank, Phase.blank]
      · have henabled : s.blank.logger.enabled = s.logger.enabled := rfl
        simp only [turn, hthread, hblank, Thread.blank, Phase.blank, henabled]
        simp only [List.map_cons, Task.blank]
        split <;> simp [Thread.blank, Phase.blank, Mark.blank]
      · have howner : s.blank.owner = s.owner := rfl
        simp only [turn, hthread, hblank, Thread.blank, Phase.blank, howner]
        simp only [List.map_cons, Task.blank]
        split
        · rfl
        · rw [blank_put]
          rfl
  | waiting call =>
      have howner : s.blank.owner = s.owner := rfl
      simp only [turn, hthread, hblank, Thread.blank, Phase.blank, howner]
      split
      · rfl
      · rw [blank_put]
        rfl
  | numbering call =>
      simp only [turn, hthread, hblank, Thread.blank, Phase.blank, blank_put]
      rfl
  | printing record =>
      have hlocal : s.blank.logger.localOutput = s.logger.localOutput := rfl
      simp only [turn, hthread, hblank, Thread.blank, Phase.blank, hlocal]
      split
      · have hpieces : s.blank.logger.linePieces record = s.logger.linePieces record := rfl
        have hworld : s.blank.world = s.world.1 := rfl
        have hconsole : s.blank.logger.console = s.logger.console := rfl
        simp only [beside, printing, Effect.within, hpieces, hworld, hconsole]
        cases print s.logger.console (s.logger.linePieces record) s.world.1 <;>
          simp only [blank_put] <;> rfl
      · rw [blank_put]
        rfl
  | sending record =>
      have hroute : s.blank.logger.route = s.logger.route.map fun _ => () :=
        s.logger.route_blank
      simp only [turn, hthread, hblank, Thread.blank, Phase.blank, hroute]
      cases s.logger.route <;> simp only [Option.map, blank_put] <;> rfl
  | delivering transport record =>
      simp only [turn, hthread, hblank, Thread.blank, Phase.blank, beside, Effect.within]
      cases deliver transport record s.world.2 <;> simp only [blank_put] <;> rfl
  | changing setting =>
      simp only [turn, hthread, hblank, Thread.blank, Phase.blank, blank_put]
      have hlogger : s.blank.logger = s.logger.blank := rfl
      rw [hlogger, Setting.apply_blank]
      rfl
  | releasing =>
      simp only [turn, hthread, hblank, Thread.blank, Phase.blank, blank_put]
      rfl

/-- Outside the transports a turn leaves their world alone. -/
theorem snd_world_turn (s : Shared Name C T (P × R)) {name : Name} (stamp : Stamp)
    (hphase : ∀ transport record, (s.threads name).phase ≠ .delivering transport record) :
    (s.turn (beside print deliver) name stamp).world.2 = s.world.2 := by
  unfold turn
  split
  case h_6 record hprinting =>
    split
    · simp only [beside, Effect.within]
      cases print s.logger.console (s.logger.linePieces record) s.world.1 <;> rfl
    · rfl
  case h_8 transport record hdelivering => exact absurd hdelivering (hphase transport record)
  all_goals repeat' split
  all_goals rfl

/-- The turns of a schedule are the same without the transports, when whatever else happens leaves
the consoles alone. -/
theorem blank_run (s : Shared Name C T (P × R)) (schedule : List (Move Name (P × R)))
    (hspares : ∀ next ∈ schedule, next.Spares) :
    (s.run (beside print deliver) schedule).blank =
      s.blank.run (printing print) (schedule.filterMap Move.turn?) := by
  induction schedule generalizing s with
  | nil => rfl
  | cons next rest ih =>
      have hrest := ih (s.move (beside print deliver) next)
        fun other hother => hspares other (List.mem_cons_of_mem _ hother)
      cases next with
      | turn name stamp =>
          rw [move, blank_turn] at hrest
          exact hrest
      | outside change =>
          have hchange : (s.move (beside print deliver) (.outside change)).blank = s.blank := by
            simp only [move, blank, hspares (.outside change) List.mem_cons_self s.world]
          rw [hchange] at hrest
          exact hrest

/-- With two transports that have nothing in common, the same turns lead from states that look
the same without the transports to such states. -/
theorem blank_run_eq {T' R' : Type} (deliver' : T' → Record → Effect R' Unit)
    {s : Shared Name C T (P × R)} {s' : Shared Name C T' (P × R')} (h : s.blank = s'.blank)
    {schedule : List (Move Name (P × R))} {schedule' : List (Move Name (P × R'))}
    (hspares : ∀ next ∈ schedule, next.Spares) (hspares' : ∀ next ∈ schedule', next.Spares)
    (hturns : (schedule.filterMap Move.turn? : List (Move Name P)) =
      schedule'.filterMap Move.turn?) :
    (s.run (beside print deliver) schedule).blank =
      (s'.run (beside print deliver') schedule').blank := by
  rw [blank_run print deliver s schedule hspares, blank_run print deliver' s' schedule' hspares', h,
    hturns]

end Shared

end Logbook
