/-
A program alone with a logger whose console takes all bytes and whose transports return.  After
any calls and changes of the settings, in any order, the settings are those that were made last,
the accepted calls have consecutive numbers, and the console and the transports have got what was
logged while they were switched on.  Main statement: `attended_run`.
-/
import Logbook.Proofs.Chronicle
import Logbook.Proofs.Desk
import Logbook.Proofs.Tape
import Mathlib.Data.List.Induction

namespace Logbook

variable {C T Place Rest : Type}

/-- The surroundings of a logger: the place of its consoles, what else there is, and the calls to
its transports so far. -/
structure Surroundings (T Place Rest : Type) where
  place : Place
  rest : Rest
  calls : List (T × Record) := []

/-- Outlets that never fail: the consoles take all bytes, and the transports do something and
return. -/
def attended (tapes : C → Endless Place) (act : T → Record → Rest → Rest) :
    Outlets C T (Surroundings T Place Rest) where
  print console pieces := do
    let _ ← ((tapes console).writePieces pieces).within Surroundings.place
      fun place world => { world with place }
  deliver transport record := modify fun world =>
    { world with
      rest := act transport record world.rest
      calls := world.calls ++ [(transport, record)] }

/-- The message of a call as a record carries it. -/
def Call.text (call : Call) : String :=
  match call.location with
  | none => call.message
  | some location =>
      "[" ++ location.fileName ++ ":" ++ toString location.line.toNat ++ "] " ++ call.message

theorem Call.markedMessage_eq (call : Call) :
    markedMessage call.location call.message = call.text := by
  rcases call with ⟨level, message, - | location⟩ <;> rfl

/-- A call that is accepted, and what was done before it. -/
structure Accepted (T : Type) where
  before : List (Stamp × Task T)
  stamp : Stamp
  call : Call

/-- A record, and what was done before its call. -/
structure Logged (T : Type) where
  before : List (Stamp × Task T)
  record : Record

def Task.call? : Task T → Option Call
  | .log call => some call
  | .set _ => none

namespace LoggerPlan

variable (plan : LoggerPlan C T)

/-- The last threshold that was set. -/
def threshold (tasks : List (Stamp × Task T)) : Level :=
  lastOf (·.2.minLevel?) plan.minLevel tasks

/-- Whether the console is on: what was set last. -/
def localOn (tasks : List (Stamp × Task T)) : Bool :=
  lastOf (·.2.localOutput?) plan.localOutput tasks

/-- Whether the transport is on: what was set last, where to set a transport switches it on and to
remove it switches it off. -/
def remoteOn (tasks : List (Stamp × Task T)) : Bool :=
  lastOf (·.2.remoteOutput?) (plan.remoteOutput.getD plan.transport.isSome) tasks

/-- The transport that was set last. -/
def installed (tasks : List (Stamp × Task T)) : Option T :=
  lastOf (·.2.transport?) plan.transport tasks

/-- The transport that a record goes to. -/
def target (tasks : List (Stamp × Task T)) : Option T :=
  if plan.remoteOn tasks then plan.installed tasks else none

/-- The calls among some tasks that are at or above the threshold of their moment. -/
def accepted (before : List (Stamp × Task T)) : List (Stamp × Task T) → List (Accepted T)
  | [] => []
  | task :: rest =>
      ((task.2.call?.filter (plan.threshold before ≤ ·.level)).map (⟨before, task.1, ·⟩)).toList ++
        accepted (before ++ [task]) rest

/-- The record of the call that is accepted at a certain place, counted from 0. -/
def recordAt (place : Nat) (entry : Accepted T) : Record :=
  .new entry.stamp (plan.sequenceStart + UInt32.ofNat place) entry.call.level plan.nodeName
    entry.call.text

/-- The records of all calls that are accepted. -/
def logged (tasks : List (Stamp × Task T)) : List (Logged T) :=
  (plan.accepted [] tasks).zipIdx.map fun (entry, place) =>
    ⟨entry.before, plan.recordAt place entry⟩

/-- The line of a record on the console, with its line break. -/
def consoleLine (record : Record) : List UInt8 :=
  Text.utf8 (record.line plan.palette).toList ++ [10]

/-- The logger after some tasks. -/
def loggerAfter (standard : C) (tasks : List (Stamp × Task T)) : Logger C T where
  nodeName := plan.nodeName
  minLevel := plan.threshold tasks
  localOutput := plan.localOn tasks
  remoteOutput := plan.remoteOn tasks
  transport := plan.installed tasks
  nextSeq := plan.sequenceStart + UInt32.ofNat (plan.logged tasks).length
  console := plan.console.getD standard
  palette := plan.palette

theorem accepted_append (before tasks more : List (Stamp × Task T)) :
    plan.accepted before (tasks ++ more) =
      plan.accepted before tasks ++ plan.accepted (before ++ tasks) more := by
  induction tasks generalizing before with
  | nil => simp [accepted]
  | cons task rest ih => simp [accepted, ih]

/-- A setting or a call that is not accepted makes no record. -/
theorem logged_grown_of_none {tasks : List (Stamp × Task T)} {task : Stamp × Task T}
    (h : task.2.call?.filter (plan.threshold tasks ≤ ·.level) = none) :
    plan.logged (tasks ++ [task]) = plan.logged tasks := by
  simp [logged, accepted_append, accepted, h]

/-- A call that is accepted makes one record, with the next number. -/
theorem logged_grown_of_accepted {tasks : List (Stamp × Task T)} {call : Call} (stamp : Stamp)
    (h : plan.threshold tasks ≤ call.level) :
    plan.logged (tasks ++ [(stamp, .log call)]) = plan.logged tasks ++
      [⟨tasks, plan.recordAt (plan.logged tasks).length ⟨tasks, stamp, call⟩⟩] := by
  have haccepted : (some call).filter (plan.threshold tasks ≤ ·.level) = some call := by
    simp [h]
  simp [logged, accepted_append, accepted, Task.call?, haccepted, List.zipIdx_append]

theorem loggerAfter_nil (standard : C) : plan.loggerAfter standard [] = plan.build standard := by
  simp [loggerAfter, build, threshold, localOn, remoteOn, installed, logged, accepted]

/-- A change of a setting is the last one of its kind. -/
theorem loggerAfter_set (standard : C) (tasks : List (Stamp × Task T)) (stamp : Stamp)
    (setting : Setting T) :
    plan.loggerAfter standard (tasks ++ [(stamp, .set setting)]) =
      setting.apply (plan.loggerAfter standard tasks) := by
  have hlogged : plan.logged (tasks ++ [(stamp, .set setting)]) = plan.logged tasks :=
    plan.logged_grown_of_none rfl
  unfold loggerAfter
  rw [hlogged]
  cases setting <;> simp [threshold, localOn, remoteOn, installed, Task.minLevel?,
    Task.localOutput?, Task.remoteOutput?, Task.transport?, Setting.apply, Logger.setMinLevel,
    Logger.setLocalOutput, Logger.setRemoteOutput, Logger.setTransport]

/-- A call changes no setting. -/
theorem loggerAfter_log (standard : C) (tasks : List (Stamp × Task T)) (stamp : Stamp)
    (call : Call) :
    plan.loggerAfter standard (tasks ++ [(stamp, .log call)]) =
      { plan.loggerAfter standard tasks with
        nextSeq := plan.sequenceStart +
          UInt32.ofNat (plan.logged (tasks ++ [(stamp, .log call)])).length } := by
  simp [loggerAfter, threshold, localOn, remoteOn, installed, Task.minLevel?, Task.localOutput?,
    Task.remoteOutput?, Task.transport?]

/-- The record and the logger that a call leads to are those of its place. -/
theorem number_loggerAfter (standard : C) {tasks : List (Stamp × Task T)} {call : Call}
    (stamp : Stamp) (h : plan.threshold tasks ≤ call.level) :
    (plan.loggerAfter standard tasks).number stamp call =
      (plan.recordAt (plan.logged tasks).length ⟨tasks, stamp, call⟩,
        plan.loggerAfter standard (tasks ++ [(stamp, .log call)])) := by
  rw [loggerAfter_log, logged_grown_of_accepted plan stamp h, Logger.number, Call.markedMessage_eq]
  simp [loggerAfter, recordAt, UInt32.ofNat_add, UInt32.add_assoc]

end LoggerPlan

section Outputs

variable (tapes : C → Endless Place) (act : T → Record → Rest → Rest)
  (logger : Logger C T) (record : Record) (world : Surroundings T Place Rest)

/-- A console that takes all bytes takes a line while it is on. -/
theorem print_attended :
    ∃ place, (logger.print (attended tapes act) record).outcome world =
        (.ok (), { world with place }) ∧
      (tapes logger.console).bytes place = (tapes logger.console).bytes world.place ++
        if logger.localOutput then (logger.linePieces record).flatten else [] := by
  unfold Logger.print
  cases hlocal : logger.localOutput with
  | false => exact ⟨world.place, rfl, by simp⟩
  | true =>
      obtain ⟨place, houtcome, hbytes⟩ :=
        (tapes logger.console).writePieces_done (logger.linePieces record) world.place
      have hwithin := Effect.outcome_within Surroundings.place
        (fun place (world : Surroundings T Place Rest) => { world with place })
        ((tapes logger.console).writePieces (logger.linePieces record)) world
      rw [houtcome] at hwithin
      refine ⟨place, ?_, hbytes⟩
      rw [if_pos rfl, attended]
      simp only []
      rw [Effect.outcome_bind_of_ok hwithin]
      rfl

/-- A transport that returns is called while it is on. -/
theorem send_attended :
    ∃ rest, (logger.send (attended tapes act) record).outcome world =
      (.ok (), { world with
        rest, calls := world.calls ++ (logger.route.map (·, record)).toList }) := by
  unfold Logger.send
  cases hroute : logger.route with
  | none => exact ⟨world.rest, by simp⟩
  | some transport => exact ⟨act transport record world.rest, rfl⟩

/-- What outlets that never fail make of a record. -/
theorem emit_attended :
    ∃ place rest, (logger.emit (attended tapes act) record).outcome world =
        (.ok (), ⟨place, rest, world.calls ++ (logger.route.map (·, record)).toList⟩) ∧
      (tapes logger.console).bytes place = (tapes logger.console).bytes world.place ++
        if logger.localOutput then (logger.linePieces record).flatten else [] := by
  obtain ⟨place, hprint, hbytes⟩ := print_attended tapes act logger record world
  obtain ⟨rest, hsend⟩ := send_attended tapes act logger record { world with place }
  refine ⟨place, rest, ?_, hbytes⟩
  rw [Logger.emit, Effect.outcome_bind_of_ok hprint, hsend]

end Outputs

/-- The records that a transport was called with. -/
def receivedBy [DecidableEq T] (transport : T) (calls : List (T × Record)) : List Record :=
  (calls.filter (·.1 = transport)).map Prod.snd

namespace Desk

/-- What every task keeps. -/
structure Invariant (plan : LoggerPlan C T) (standard : C) (tapes : C → Endless Place)
    (place : Place) (tasks : List (Stamp × Task T))
    (desk : Desk C T (Surroundings T Place Rest)) : Prop where
  logger : desk.logger = plan.loggerAfter standard tasks
  records : desk.records = (plan.logged tasks).map Logged.record
  console : (tapes (plan.console.getD standard)).bytes desk.world.place =
    (tapes (plan.console.getD standard)).bytes place ++
      ((plan.logged tasks).filter (plan.localOn ·.before)).flatMap (plan.consoleLine ·.record)
  calls : desk.world.calls = (plan.logged tasks).filterMap fun entry =>
    (plan.target entry.before).map (·, entry.record)
  faults : desk.faults = []

section

variable {plan : LoggerPlan C T} {standard : C} {tapes : C → Endless Place} {place : Place}
  {tasks : List (Stamp × Task T)} {desk : Desk C T (Surroundings T Place Rest)}

/-- What a call that is accepted does. -/
theorem exists_log (hlogger : desk.logger = plan.loggerAfter standard tasks)
    (tapes : C → Endless Place) (act : T → Record → Rest → Rest) (stamp : Stamp) {call : Call}
    (hlevel : plan.threshold tasks ≤ call.level) {record : Record}
    (hrecord : record = plan.recordAt (plan.logged tasks).length ⟨tasks, stamp, call⟩) :
    ∃ place rest, desk.log (attended tapes act) stamp call =
        { logger := plan.loggerAfter standard (tasks ++ [(stamp, .log call)])
          world := ⟨place, rest,
            desk.world.calls ++ ((plan.target tasks).map (·, record)).toList⟩
          records := desk.records ++ [record]
          faults := desk.faults } ∧
      (tapes (plan.console.getD standard)).bytes place =
        (tapes (plan.console.getD standard)).bytes desk.world.place ++
          if plan.localOn tasks then plan.consoleLine record else [] := by
  have hnumber := plan.number_loggerAfter standard stamp hlevel
  have hroute : (plan.loggerAfter standard (tasks ++ [(stamp, .log call)])).route =
      plan.target tasks := by
    rw [plan.loggerAfter_log]
    rfl
  have hlocal : (plan.loggerAfter standard (tasks ++ [(stamp, .log call)])).localOutput =
      plan.localOn tasks := by
    rw [plan.loggerAfter_log]
    rfl
  have hline : ((plan.loggerAfter standard (tasks ++ [(stamp, .log call)])).linePieces
      record).flatten = plan.consoleLine record := by
    simp [Logger.linePieces, LoggerPlan.consoleLine, LoggerPlan.loggerAfter]
  obtain ⟨place, rest, hemit, hbytes⟩ := emit_attended tapes act
    (plan.loggerAfter standard (tasks ++ [(stamp, .log call)])) record desk.world
  rw [hroute] at hemit
  rw [hlocal, hline] at hbytes
  refine ⟨place, rest, ?_, hbytes⟩
  have hminLevel : desk.logger.minLevel ≤ call.level := by
    rw [hlogger]
    exact hlevel
  rw [log_eq, if_pos hminLevel, hlogger, hnumber, ← hrecord]
  simp only [hemit, faultsOf, List.append_nil]

/-- A call that is accepted goes wherever it should. -/
theorem Invariant.log (h : Invariant plan standard tapes place tasks desk)
    (act : T → Record → Rest → Rest) {stamp : Stamp} {call : Call}
    (hlevel : plan.threshold tasks ≤ call.level) :
    Invariant plan standard tapes place (tasks ++ [(stamp, .log call)])
      (desk.log (attended tapes act) stamp call) := by
  have hlogged := plan.logged_grown_of_accepted stamp hlevel
  obtain ⟨place', rest', hlog, hbytes⟩ := exists_log h.logger tapes act stamp hlevel rfl
  rw [hlog]
  constructor
  case logger => rfl
  case records => simp [hlogged, h.records]
  case console =>
    rw [hlogged, List.filter_append, List.flatMap_append, ← List.append_assoc, ← h.console]
    apply hbytes.trans
    cases hlocal : plan.localOn tasks <;> simp [hlocal]
  case calls => rw [hlogged, filterMap_grown, ← h.calls]
  case faults => exact h.faults

theorem Invariant.perform (h : Invariant plan standard tapes place tasks desk)
    (act : T → Record → Rest → Rest) (task : Stamp × Task T) :
    Invariant plan standard tapes place (tasks ++ [task])
      (desk.perform (attended tapes act) task) := by
  obtain ⟨stamp, task⟩ := task
  cases task with
  | set setting =>
      have hlogged : plan.logged (tasks ++ [(stamp, .set setting)]) = plan.logged tasks :=
        plan.logged_grown_of_none rfl
      constructor
      case logger =>
        rw [plan.loggerAfter_set, ← h.logger]
        rfl
      case records =>
        rw [hlogged]
        exact h.records
      case console =>
        rw [hlogged]
        exact h.console
      case calls =>
        rw [hlogged]
        exact h.calls
      case faults => exact h.faults
  | log call =>
      by_cases hlevel : plan.threshold tasks ≤ call.level
      · exact h.log act hlevel
      · have hlogged : plan.logged (tasks ++ [(stamp, .log call)]) = plan.logged tasks := by
          apply plan.logged_grown_of_none
          simp [Task.call?, hlevel]
        have hdesk : desk.log (attended tapes act) stamp call = desk := by
          rw [log_eq, h.logger]
          exact if_neg hlevel
        have hlogger : plan.loggerAfter standard (tasks ++ [(stamp, .log call)]) =
            plan.loggerAfter standard tasks := by
          rw [plan.loggerAfter_log, hlogged]
          rfl
        change Invariant plan standard tapes place _ (desk.log (attended tapes act) stamp call)
        rw [hdesk]
        exact ⟨hlogger ▸ h.logger, hlogged ▸ h.records, hlogged ▸ h.console, hlogged ▸ h.calls,
          h.faults⟩

theorem invariant_run (plan : LoggerPlan C T) (standard : C) (tapes : C → Endless Place)
    (act : T → Record → Rest → Rest) (place : Place) (rest : Rest)
    (tasks : List (Stamp × Task T)) :
    Invariant plan standard tapes place tasks
      (run (attended tapes act) { logger := plan.build standard, world := { place, rest } }
        tasks) := by
  induction tasks using List.reverseRecOn with
  | nil => exact ⟨(plan.loggerAfter_nil standard).symm, rfl, (List.append_nil _).symm, rfl, rfl⟩
  | append_singleton tasks task ih =>
      rw [run_grown]
      exact ih.perform act task

end

/-- Of the calls to transports, those to one transport. -/
theorem receivedBy_targets [DecidableEq T] (plan : LoggerPlan C T) (transport : T)
    (entries : List (Logged T)) :
    receivedBy transport (entries.filterMap fun entry =>
        (plan.target entry.before).map (·, entry.record)) =
      (entries.filter fun entry => plan.remoteOn entry.before ∧
        plan.installed entry.before = some transport).map Logged.record := by
  induction entries with
  | nil => rfl
  | cons entry rest ih =>
      rw [List.filterMap_cons]
      unfold LoggerPlan.target at ih ⊢
      cases hremote : plan.remoteOn entry.before with
      | false => simpa [hremote] using ih
      | true =>
          cases hinstalled : plan.installed entry.before with
          | none => simpa [hinstalled] using ih
          | some other =>
              by_cases hother : other = transport <;>
                simpa [receivedBy, hremote, hinstalled, hother] using ih

/-- Each record asks for at most one call to a transport. -/
theorem targets_sublist (plan : LoggerPlan C T) (entries : List (Logged T)) :
    ((entries.filterMap fun entry =>
        (plan.target entry.before).map (·, entry.record)).map Prod.snd).Sublist
      (entries.map Logged.record) := by
  induction entries with
  | nil => exact List.Sublist.slnil
  | cons entry rest ih =>
      rw [List.filterMap_cons, List.map_cons]
      cases htarget : plan.target entry.before with
      | none => exact ih.cons entry.record
      | some transport => exact ih.cons_cons entry.record

/-- What there is to see after some tasks. -/
structure Attended [DecidableEq T] (plan : LoggerPlan C T) (standard : C)
    (tapes : C → Endless Place) (place : Place) (tasks : List (Stamp × Task T))
    (desk : Desk C T (Surroundings T Place Rest)) : Prop where
  /-- The settings are those that were made last, and the counter is ahead of its start by the
  number of accepted calls. -/
  logger : desk.logger = plan.loggerAfter standard tasks
  /-- The next call is accepted when it is not below the last threshold. -/
  accepted : ∀ stamp call, (desk.logger.accept? stamp call).isSome = true ↔
    plan.threshold tasks ≤ call.level
  /-- The accepted calls have consecutive numbers, and carry their texts and places. -/
  records : desk.records = (plan.logged tasks).map Logged.record
  /-- The console holds the lines of the records that were made while it was on. -/
  console : (tapes (plan.console.getD standard)).bytes desk.world.place =
    (tapes (plan.console.getD standard)).bytes place ++
      ((plan.logged tasks).filter (plan.localOn ·.before)).flatMap (plan.consoleLine ·.record)
  /-- Transports were called with the records that were made while they were installed and
  switched on, in order. -/
  calls : desk.world.calls = (plan.logged tasks).filterMap fun entry =>
    (plan.target entry.before).map (·, entry.record)
  /-- So a transport has received the records that were made while it was installed and switched
  on. -/
  received : ∀ transport, receivedBy transport desk.world.calls =
    ((plan.logged tasks).filter fun entry =>
      plan.remoteOn entry.before ∧ plan.installed entry.before = some transport).map Logged.record
  /-- No record was given to two transports, or to one of them twice. -/
  once : (desk.world.calls.map Prod.snd).Sublist desk.records
  /-- No call raised a fault. -/
  faults : desk.faults = []

/-- Whatever a program does with a logger whose outlets never fail, they get what they should. -/
theorem attended_run [DecidableEq T] (plan : LoggerPlan C T) (standard : C)
    (tapes : C → Endless Place) (act : T → Record → Rest → Rest) (place : Place) (rest : Rest)
    (tasks : List (Stamp × Task T)) :
    Attended plan standard tapes place tasks
      (run (attended tapes act) { logger := plan.build standard, world := { place, rest } }
        tasks) := by
  have h := invariant_run plan standard tapes act place rest tasks
  refine ⟨h.logger, ?_, h.records, h.console, h.calls, ?_, ?_, h.faults⟩
  · intro stamp call
    rw [h.logger]
    by_cases hlevel : plan.threshold tasks ≤ call.level <;>
      simp [Logger.accept?, Logger.enabled, LoggerPlan.loggerAfter, hlevel]
  · intro transport
    rw [h.calls]
    exact receivedBy_targets plan transport _
  · rw [h.calls, h.records]
    exact targets_sublist plan _

end Desk

namespace OutputsWitness

/-- Outlets that keep the numbers of the records that transports are called with. -/
def counting : Outlets Unit Nat (List (Nat × UInt32)) where
  print _ _ := pure ()
  deliver transport record := modify (· ++ [(transport, record.seq)])

def start : Desk Unit Nat (List (Nat × UInt32)) where
  logger := LoggerPlan.build
    { nodeName := "arm", transport := some 0, sequenceStart := 4294967295 } ()
  world := []

/-- A new transport is switched on, whatever was said of the old one. -/
example : (start.run counting ([.log ⟨.info, "a", none⟩, .set (.remoteOutput false),
    .log ⟨.info, "b", none⟩, .set (.transport (some 1)), .log ⟨.info, "c", none⟩].map
      (⟨0, 0⟩, ·))).world = [(0, 4294967295), (1, 1)] := by
  decide +kernel

end OutputsWitness

end Logbook
