/-
Runs of a program whose log statements stand behind gates.  Between the visits to its statements
the program may do anything else with its loggers, drafts and transports and with the registry,
and it goes on after faults.

Whether a gate opens is decided by what that gate has been asked before, and by nothing else: the
visits to it open as if there were no other gates and no loggers at all.  A statement behind a shut
gate does nothing, and one behind an open gate does what it would do without a gate.  Main
statements: `openingsAt_visits` and `gated_run`.
-/
import Logbook.Proofs.Session
import Logbook.Proofs.Threads

namespace Logbook

/-- The gate that a guard asks: its kind and its place. -/
inductive Seat where
  | once (site : Site)
  | everyNth (site : Site)
  | changes (site : Site)
  | throttled (site : Site)
  deriving DecidableEq, Repr

def Guard.seat : Guard → Option Seat
  | .always => none
  | .holds _ => none
  | .once site => some (.once site)
  | .everyNth site _ => some (.everyNth site)
  | .changes site _ => some (.changes site)
  | .throttled site _ _ => some (.throttled site)

namespace Gates

/-- One gate as it is, and all others new. -/
def only (gates : Gates) : Seat → Gates
  | .once site => { once := update (fun _ => {}) site (gates.once site) }
  | .everyNth site => { count := update (fun _ => {}) site (gates.count site) }
  | .changes site => { change := update (fun _ => {}) site (gates.change site) }
  | .throttled site => { interval := update (fun _ => {}) site (gates.interval site) }

/-- Which visits open, when statements with these guards are visited one after the other. -/
def openings (gates : Gates) : List Guard → List Bool
  | [] => []
  | guard :: rest => (gates.visit guard).1 :: openings (gates.visit guard).2 rest

section

variable {Gate : Type} (gates : Site → Gate) (site : Site) (gate gate' : Gate)

@[simp] theorem update_self : update gates site gate site = gate :=
  if_pos rfl

@[simp] theorem update_update :
    update (update gates site gate) site gate' = update gates site gate' := by
  funext other
  unfold update
  split <;> rfl

theorem update_of_ne {site other : Site} (h : other ≠ site) :
    update gates site gate other = gates other :=
  if_neg h

end

/-- A visit to a gate does the same whatever the other gates are. -/
theorem visit_only (gates : Gates) {guard : Guard} {seat : Seat} (h : guard.seat = some seat) :
    (gates.visit guard).1 = ((gates.only seat).visit guard).1 ∧
      (gates.visit guard).2.only seat = ((gates.only seat).visit guard).2 := by
  cases guard with
  | always => simp [Guard.seat] at h
  | holds condition => simp [Guard.seat] at h
  | once site =>
      obtain rfl := Option.some_inj.mp h
      simp [visit, only]
  | everyNth site n =>
      obtain rfl := Option.some_inj.mp h
      simp [visit, only]
  | changes site condition =>
      obtain rfl := Option.some_inj.mp h
      simp [visit, only]
  | throttled site interval reading =>
      obtain rfl := Option.some_inj.mp h
      simp [visit, only]

/-- A visit to a statement leaves the gates of all others as they are. -/
theorem only_visit_of_ne (gates : Gates) {guard : Guard} {seat : Seat}
    (h : guard.seat ≠ some seat) : (gates.visit guard).2.only seat = gates.only seat := by
  cases guard with
  | always => rfl
  | holds condition => rfl
  | once site =>
      cases seat with
      | once other =>
          have hother : other ≠ site := fun hsame => h (by rw [hsame, Guard.seat])
          simp [visit, only, update_of_ne _ _ hother]
      | _ => rfl
  | everyNth site n =>
      cases seat with
      | everyNth other =>
          have hother : other ≠ site := fun hsame => h (by rw [hsame, Guard.seat])
          simp [visit, only, update_of_ne _ _ hother]
      | _ => rfl
  | changes site condition =>
      cases seat with
      | changes other =>
          have hother : other ≠ site := fun hsame => h (by rw [hsame, Guard.seat])
          simp [visit, only, update_of_ne _ _ hother]
      | _ => rfl
  | throttled site interval reading =>
      cases seat with
      | throttled other =>
          have hother : other ≠ site := fun hsame => h (by rw [hsame, Guard.seat])
          simp [visit, only, update_of_ne _ _ hother]
      | _ => rfl

end Gates

/-- What a program does between visits to its statements. -/
inductive Action where
  | log (id : LoggerId) (call : Call)
  | set (id : LoggerId) (setting : Setting (Transport Outlet))
  | create (plan : SessionPlan)
  | bind (name : String) (id : LoggerId)
  | release (name : String)
  | install (plan : SessionPlan)
  | fetchShared
  | reset
  | begin (name : String) (id : LoggerId) (level : Level) (location : Option Location)
  | extend (name : String) (texts : List String)
  | rename (name other : String)
  | endDrafts (names : List String)
  | addMemory (use : MemoryUse) (limits : Limits)
  | addChannel (name : String)
  | receive (name : String) (most : Option Nat)
  | dropReceiver (name : String)
  | clock (stamp : Stamp)

def Action.effect : Action → Effect Session Unit
  | .log id call => Session.log id call
  | .set id setting => modify (Session.modifyLogger id (setting.apply ·))
  | .create plan => modify (Session.addLogger plan · |>.2)
  | .bind name id => modify (Session.bindHandle name id)
  | .release name => modify fun session =>
      { session with handles := session.handles.filter (·.1 != name) }
  | .install plan => modify (Session.install plan)
  | .fetchShared => modify (·.shared.2)
  | .reset => modify fun session => { session with registry := session.registry.reset }
  | .begin name id level location => Session.begin name id level location
  | .extend name texts => modify (Session.extend name texts)
  | .rename name other => Session.rename name other
  | .endDrafts names => Session.endDrafts names
  | .addMemory use limits => modify (Session.addMemory use limits · |>.2)
  | .addChannel name => modify (Session.addChannel name · |>.2)
  | .receive name most => modify (Session.receive name most · |>.2)
  | .dropReceiver name => modify (Session.dropReceiver name)
  | .clock stamp => modify fun session => { session with clock := stamp }

/-- A step of a program: a visit to a statement, or anything else. -/
inductive Step where
  | act (action : Action)
  | visit (statement : Statement)

/-- A visit to a statement: whether its gate opened, what came back, and the session before and
after it. -/
structure Visited where
  statement : Statement
  before : Session
  opened : Bool
  answer : Except Fault Bool
  after : Session

namespace Session

/-- The logger of a statement, which is the fallback when it is the shared one and there is none,
and the session that has it. -/
def loggerFor (session : Session) (statement : Statement) : LoggerId × Session :=
  match statement.logger with
  | some id => (id, session)
  | none => session.shared

/-- What a statement does that nothing holds back.  When its logger takes the level and the message
is not empty, the logger makes one record of the message, with the place of the statement in front
of it; else it makes none and takes no number.  The answer tells whether the message had to be
made. -/
def logged (statement : Statement) (session : Session) : Except Fault Bool × Session :=
  let (id, found) := session.loggerFor statement
  match found.loggers[id]? with
  | none => (.ok false, found)
  | some logger =>
      if logger.minLevel ≤ statement.level then
        if statement.message = "" then (.ok true, found)
        else
          let record : Record := .new found.clock logger.nextSeq statement.level logger.nodeName
            ("[" ++ statement.location.fileName ++ ":" ++
              toString statement.location.line.toNat ++ "] " ++ statement.message)
          let counted := { logger with nextSeq := logger.nextSeq + 1 }
          let (answer, after) := (counted.emit (outlets found.loggers.length) record).outcome
            (found.putLogger id counted)
          (answer.map fun _ => true, after)
      else (.ok false, found)

/-- Takes a step.  A fault comes back to the program, which goes on. -/
def take (session : Session) : Step → Session
  | .act action => (action.effect.outcome session).2
  | .visit statement => ((runStatement statement).outcome session).2

/-- A visit to a statement in a session. -/
def visitTo (session : Session) (statement : Statement) : Visited where
  statement := statement
  before := session
  opened := (session.gates.visit statement.guard).1
  answer := ((runStatement statement).outcome session).1
  after := session.take (.visit statement)

/-- The visits to statements in a run. -/
def visits (session : Session) : List Step → List Visited
  | [] => []
  | .act action :: rest => visits (session.take (.act action)) rest
  | .visit statement :: rest =>
      session.visitTo statement :: visits (session.take (.visit statement)) rest

section Ungated

theorem shared_gated (session : Session) (gates : Gates) :
    (session.gated gates).shared = (session.shared.1, session.shared.2.gated gates) := by
  simp only [shared, gated]
  cases session.registry.current <;> rfl

theorem ungated_loggerOf (statement : Statement) : Ungated (loggerOf statement) := by
  unfold loggerOf
  split
  · exact ungated_pure _
  · exact ungated_modifyGet shared_gated

theorem ungated_logMade (id : LoggerId) (statement : Statement) :
    Ungated (logMade id statement) := by
  refine ungated_get_bind (fun _ _ => rfl) fun session => ?_
  split
  · exact ungated_pure _
  · exact (ungated_finish _).bind fun _ => ungated_pure _

theorem ungated_keepDraft (name : String) (draft : OpenDraft) :
    Ungated (keepDraft name draft) := by
  refine ungated_get_bind (fun _ _ => rfl) fun session => ?_
  refine (ungated_modify fun _ _ => rfl).bind fun _ => ?_
  split
  · exact ungated_finish _
  · exact ungated_pure _

theorem ungated_begin (name : String) (id : LoggerId) (level : Level)
    (location : Option Location) : Ungated (begin name id level location) := by
  refine ungated_get_bind (fun _ _ => rfl) fun session => ?_
  split
  · exact ungated_keepDraft _ _
  · exact ungated_pure _

theorem ungated_takeDraft (name : String) : Ungated (takeDraft name) :=
  fun _ _ => rfl

theorem ungated_rename (name other : String) : Ungated (rename name other) := by
  refine (ungated_takeDraft name).bind fun draft => ?_
  cases draft with
  | none => exact ungated_pure _
  | some draft => exact ungated_keepDraft other draft

theorem ungated_endDraft (name : String) : Ungated (endDraft name) := by
  refine (ungated_takeDraft name).bind fun draft => ?_
  cases draft with
  | none => exact ungated_pure _
  | some draft => exact ungated_finish draft

/-- Nothing but a visit has to do with gates. -/
theorem ungated_effect (action : Action) : Ungated action.effect := by
  cases action with
  | log id call => exact ungated_log id call
  | set id setting => exact ungated_modify fun _ _ => rfl
  | create plan => exact ungated_modify fun _ _ => rfl
  | bind name id => exact ungated_modify fun _ _ => rfl
  | release name => exact ungated_modify fun _ _ => rfl
  | install plan => exact ungated_modify fun _ _ => rfl
  | fetchShared =>
      refine ungated_modify fun session gates => ?_
      rw [shared_gated]
  | reset => exact ungated_modify fun _ _ => rfl
  | begin name id level location => exact ungated_begin name id level location
  | extend name texts =>
      refine ungated_modify fun session gates => ?_
      simp only [extend, gated]
      cases session.drafts.get? name <;> rfl
  | rename name other => exact ungated_rename name other
  | endDrafts names => exact ungated_forAll ungated_endDraft names
  | addMemory use limits => exact ungated_modify fun _ _ => rfl
  | addChannel name => exact ungated_modify fun _ _ => rfl
  | receive name most =>
      refine ungated_modify fun session gates => ?_
      simp only [receive, gated]
      cases session.receivers.get? name <;> rfl
  | dropReceiver name =>
      refine ungated_modify fun session gates => ?_
      simp only [dropReceiver, gated]
      cases session.receivers.get? name <;> rfl
  | clock stamp => exact ungated_modify fun _ _ => rfl

end Ungated

/-- A call to a logger, of which its outlets see the record. -/
theorem outcome_log {id : LoggerId} {session : Session} {logger : SessionLogger}
    (hlogger : session.loggers[id]? = some logger) {call : Call}
    (hlevel : logger.minLevel ≤ call.level) :
    (log id call).outcome session =
      ((logger.number session.clock call).2.emit (outlets session.loggers.length)
        (logger.number session.clock call).1).outcome
          (session.putLogger id (logger.number session.clock call).2) := by
  have haccept : logger.accept? session.clock call = some (logger.number session.clock call) := by
    simp [Logger.accept?, Logger.enabled, hlevel]
  change (logWithin (session.loggers.length + 1) id call).outcome session = _
  change (match session.loggers[id]? with
    | none => pure ()
    | some logger => logger.log (outlets session.loggers.length) (putLogger id) session.clock
        call : Effect Session Unit).outcome session = _
  rw [hlogger]
  simp only [Logger.log, haccept]
  rw [Effect.outcome_bind_of_ok (Effect.outcome_modify _ session)]

theorem outcome_loggerOf (statement : Statement) (session : Session) :
    (loggerOf statement).outcome session =
      (.ok (session.loggerFor statement).1, (session.loggerFor statement).2) := by
  unfold loggerOf loggerFor
  cases statement.logger <;> rfl

/-- The call at the end of a draft that has got all its text at once. -/
theorem call?_push_start (logger : SessionLogger) (level : Level) (location : Option Location)
    (message : String) :
    ((Draft.start logger level location).push message).call? =
      if logger.minLevel ≤ level ∧ message ≠ "" then some ⟨level, message, location⟩ else none := by
  by_cases hlevel : logger.minLevel ≤ level <;>
    simp [Draft.push, Draft.start, Draft.call?, Logger.enabled, hlevel]

theorem outcome_bind_pure (effect : Effect Session Unit) (value : Bool) (session : Session) :
    (effect >>= fun _ => pure value).outcome session =
      ((effect.outcome session).1.map fun _ => value, (effect.outcome session).2) := by
  rcases houtcome : effect.outcome session with ⟨answer, after⟩
  cases answer with
  | ok done => rw [Effect.outcome_bind_of_ok houtcome]; rfl
  | error fault => rw [Effect.outcome_bind_of_error houtcome]; rfl

theorem outcome_logMade (statement : Statement) (session : Session) :
    (do logMade (← loggerOf statement) statement).outcome session = logged statement session := by
  rw [Effect.outcome_bind_of_ok (outcome_loggerOf statement session)]
  unfold logged
  obtain ⟨id, found⟩ := session.loggerFor statement
  change (match found.loggers[id]? with
    | none => pure false
    | some logger => do
        finish ⟨id, (Draft.start logger statement.level (some statement.location)).push
          statement.message⟩
        pure (logger.enabled statement.level) : Effect Session Bool).outcome found = _
  rcases hlogger : found.loggers[id]? with - | logger
  · simp only [hlogger, Effect.outcome_pure]
  · simp only [hlogger, outcome_bind_pure, finish, call?_push_start]
    by_cases hlevel : logger.minLevel ≤ statement.level
    · have henabled : logger.enabled statement.level = true := decide_eq_true hlevel
      by_cases hmessage : statement.message = ""
      · simp only [hlevel, hmessage, henabled, ne_eq, not_true, and_false, if_true, if_false,
          Effect.outcome_pure, Except.map]
      · have hcall : (log id ⟨statement.level, statement.message, some statement.location⟩).outcome
            found = _ := outcome_log hlogger hlevel
        simp only [hlevel, hmessage, henabled, ne_eq, not_false_iff, and_self, if_true, if_false,
          hcall]
        rfl
    · have henabled : logger.enabled statement.level = false := decide_eq_false hlevel
      simp only [hlevel, henabled, false_and, if_false, Effect.outcome_pure, Except.map]

theorem outcome_runStatement (statement : Statement) (session : Session) :
    (runStatement statement).outcome session =
      if (session.gates.visit statement.guard).1 then
        logged statement (session.gated (session.gates.visit statement.guard).2)
      else (.ok false, session.gated (session.gates.visit statement.guard).2) := by
  rw [← outcome_logMade]
  have hvisit : (modifyGet fun session : Session =>
      ((session.gates.visit statement.guard).1,
        { session with gates := (session.gates.visit statement.guard).2 }) :
        Effect Session Bool).outcome session =
      (.ok (session.gates.visit statement.guard).1,
        session.gated (session.gates.visit statement.guard).2) := rfl
  rw [runStatement, Effect.outcome_bind_of_ok hvisit]
  split <;> rfl

theorem gates_logged (statement : Statement) (session : Session) :
    (logged statement session).2.gates = session.gates := by
  rw [← outcome_logMade]
  exact ((ungated_loggerOf statement).bind fun id =>
    ungated_logMade id statement).gates_outcome session

/-- A visit does to the gates what it does to them alone. -/
theorem gates_visit (statement : Statement) (session : Session) :
    (session.take (.visit statement)).gates = (session.gates.visit statement.guard).2 := by
  rw [take, outcome_runStatement]
  split
  · rw [gates_logged, gates_gated]
  · rfl

theorem gates_act (action : Action) (session : Session) :
    (session.take (.act action)).gates = session.gates :=
  (ungated_effect action).gates_outcome session

end Session

/-- What a gate is asked in the course of a run: the guards of the visits to it. -/
def Step.asked (seat : Seat) : Step → Option Guard
  | .act _ => none
  | .visit statement => if statement.guard.seat = some seat then some statement.guard else none

/-- Which visits to a gate open. -/
def openingsAt (seat : Seat) (visits : List Visited) : List Bool :=
  visits.filterMap fun visit =>
    if visit.statement.guard.seat = some seat then some visit.opened else none

namespace Session

/-- A gate opens as if there were nothing else. -/
theorem openingsAt_visits (seat : Seat) (start : Session) (steps : List Step) :
    openingsAt seat (start.visits steps) =
      (start.gates.only seat).openings (steps.filterMap (Step.asked seat)) := by
  induction steps generalizing start with
  | nil => rfl
  | cons step rest ih =>
      cases step with
      | act action =>
          rw [visits, ih, gates_act]
          rfl
      | visit statement =>
          have hrest := ih (start.take (.visit statement))
          rw [gates_visit] at hrest
          rw [visits, openingsAt, List.filterMap_cons, List.filterMap_cons, ← openingsAt, hrest]
          by_cases hseat : statement.guard.seat = some seat
          · obtain ⟨hopens, honly⟩ := start.gates.visit_only hseat
            simp only [Step.asked, visitTo, hseat, if_true, Gates.openings, hopens, honly]
          · rw [start.gates.only_visit_of_ne hseat]
            simp only [Step.asked, visitTo, hseat, if_false]

theorem eq_visitTo_of_mem {visit : Visited} {start : Session} {steps : List Step}
    (h : visit ∈ start.visits steps) : visit = visit.before.visitTo visit.statement := by
  induction steps generalizing start with
  | nil => simp [visits] at h
  | cons step rest ih =>
      cases step with
      | act action => exact ih h
      | visit statement =>
          rcases List.mem_cons.mp h with rfl | hrest
          · rfl
          · exact ih hrest

/-- A statement behind a shut gate makes no message and does nothing but ask the gate. -/
theorem visitTo_of_shut {session : Session} {statement : Statement}
    (h : (session.visitTo statement).opened = false) :
    (session.visitTo statement).answer = .ok false ∧
      (session.visitTo statement).after =
        session.gated (session.gates.visit statement.guard).2 := by
  have hshut : (session.gates.visit statement.guard).1 = false := h
  have houtcome := outcome_runStatement statement session
  rw [hshut, if_neg Bool.false_ne_true] at houtcome
  exact ⟨congrArg Prod.fst houtcome, congrArg Prod.snd houtcome⟩

theorem visitTo_of_open {session : Session} {statement : Statement}
    (h : (session.visitTo statement).opened = true) :
    ((session.visitTo statement).answer, (session.visitTo statement).after) =
      logged statement (session.gated (session.gates.visit statement.guard).2) := by
  have hopen : (session.gates.visit statement.guard).1 = true := h
  have houtcome := outcome_runStatement statement session
  rw [hopen, if_pos rfl] at houtcome
  exact houtcome

/-- What gates make of the statements of a run. -/
structure Gated (start : Session) (steps : List Step) : Prop where
  /-- Which visits to a gate open is told by its state at the start and by what it is asked. -/
  fires : ∀ seat, openingsAt seat (start.visits steps) =
    (start.gates.only seat).openings (steps.filterMap (Step.asked seat))
  /-- So they are the same in any run in which the gate is asked the same, whatever its loggers,
  transports, registry and other gates are. -/
  alike : ∀ seat (other : Session) (steps' : List Step),
    other.gates.only seat = start.gates.only seat →
    steps'.filterMap (Step.asked seat) = steps.filterMap (Step.asked seat) →
      openingsAt seat (other.visits steps') = openingsAt seat (start.visits steps)
  /-- A visit leaves all other gates as they are. -/
  apart : ∀ visit ∈ start.visits steps, ∀ seat, visit.statement.guard.seat ≠ some seat →
    visit.after.gates.only seat = visit.before.gates.only seat
  /-- Behind a gate that stays shut no message is made, and nothing but the gate changes: no
  logger, no registry, nothing that could be seen. -/
  shut : ∀ visit ∈ start.visits steps, visit.opened = false →
    visit.answer = .ok false ∧ visit.after = visit.before.gated visit.after.gates
  /-- Behind a gate that opens a statement does what it does when nothing holds it back. -/
  opens : ∀ visit ∈ start.visits steps, visit.opened = true →
    (visit.answer, visit.after) = logged visit.statement (visit.before.gated visit.after.gates)
  /-- That is what a statement without a gate does. -/
  plain : ∀ statement session,
    (runStatement { statement with guard := .always }).outcome session = logged statement session

/-- In every run, gates decide by themselves which visits to their statements may log, and decide
nothing else. -/
theorem gated_run (start : Session) (steps : List Step) : Gated start steps where
  fires seat := openingsAt_visits seat start steps
  alike seat other steps' hgate hasked := by
    rw [openingsAt_visits, openingsAt_visits, hgate, hasked]
  apart visit hvisit seat hseat := by
    rw [eq_visitTo_of_mem hvisit]
    change (visit.before.take (.visit visit.statement)).gates.only seat = _
    rw [gates_visit]
    exact visit.before.gates.only_visit_of_ne hseat
  shut visit hvisit hshut := by
    have hvisitTo := eq_visitTo_of_mem hvisit
    rw [hvisitTo] at hshut
    obtain ⟨hanswer, hafter⟩ := visitTo_of_shut hshut
    rw [← hvisitTo] at hanswer hafter
    exact ⟨hanswer, by rw [hafter, gates_gated]⟩
  opens visit hvisit hopen := by
    have hvisitTo := eq_visitTo_of_mem hvisit
    rw [hvisitTo] at hopen
    have hgates := gates_visit visit.statement visit.before
    have hlogged := visitTo_of_open hopen
    rw [← hgates] at hlogged
    rw [hvisitTo]
    exact hlogged
  plain statement session := by
    rw [outcome_runStatement]
    rfl

end Session

namespace StatementsWitness

def statement (site : Site) : Statement := ⟨.once site, none, .info, "up", ⟨"node.rs", 1⟩⟩

/-- A gate that has opened stays shut, whatever becomes of the registry, and another gate opens. -/
example :
    openingsAt (.once 0) (Session.visits {} [.visit (statement 0), .act .reset,
      .visit (statement 0), .visit (statement 1)]) = [true, false] := by
  decide +kernel

end StatementsWitness

end Logbook
