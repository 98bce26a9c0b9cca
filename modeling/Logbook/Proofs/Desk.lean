/-
A program alone with a logger.  It calls the logger and changes its settings, one task after the
other.  Whatever its outlets do to the world, a call does three things: it is held against the
threshold, it takes a number if it is accepted, and its record goes to the outlets.  A fault comes
back to the program, which goes on with the next task.  Main statement: `Desk.log_eq`.
-/
import Logbook.Proofs.Threads

namespace Logbook

namespace Effect

variable {World Part α β : Type} (part : World → Part) (put : Part → World → World)

/-- An effect on a part of a world. -/
def within (effect : Effect Part α) : Effect World α := fun world =>
  match effect (part world) with
  | .ok value after => .ok value (put after world)
  | .error fault after => .error fault (put after world)

theorem outcome_within (effect : Effect Part α) (world : World) :
    (within part put effect).outcome world =
      ((effect.outcome (part world)).1, put (effect.outcome (part world)).2 world) := by
  cases h : effect (part world) with
  | ok value after => simp [within, outcome, EStateM.run, h]
  | error fault after => simp [within, outcome, EStateM.run, h]

theorem outcome_modify (change : World → World) (world : World) :
    (modify change : Effect World Unit).outcome world = (.ok (), change world) := rfl

end Effect

/-- The last value that a list tells, or the one before all of them. -/
def lastOf {α β : Type} (tell : α → Option β) (start : β) (list : List α) : β :=
  (list.filterMap tell).getLast?.getD start

@[simp] theorem lastOf_nil {α β : Type} (tell : α → Option β) (start : β) :
    lastOf tell start [] = start := rfl

@[simp] theorem lastOf_grown {α β : Type} (tell : α → Option β) (start : β) (list : List α)
    (last : α) :
    lastOf tell start (list ++ [last]) = (tell last).getD (lastOf tell start list) := by
  cases h : tell last <;> simp [lastOf, h]

namespace Task

variable {T : Type}

/-- The threshold that is set. -/
def minLevel? : Task T → Option Level
  | .set (.minLevel level) => some level
  | _ => none

/-- Whether the console is switched on or off. -/
def localOutput? : Task T → Option Bool
  | .set (.localOutput on) => some on
  | _ => none

/-- Whether the transport is switched on or off.  To set a transport switches it on, and to remove
it switches it off. -/
def remoteOutput? : Task T → Option Bool
  | .set (.remoteOutput on) => some on
  | .set (.transport target) => some target.isSome
  | _ => none

/-- What is set as the transport, which may be none. -/
def transport? : Task T → Option (Option T)
  | .set (.transport target) => some target
  | _ => none

end Task

/-- A logger in the hands of a program: the world that its outlets lead to, the records of the
calls that were accepted, and the faults that came back. -/
structure Desk (C T World : Type) where
  logger : Logger C T
  world : World
  records : List Record := []
  faults : List Fault := []

/-- The fault of a call, if it raised one. -/
def faultsOf : Except Fault Unit → List Fault
  | .ok () => []
  | .error fault => [fault]

namespace Desk

variable {C T World : Type}

/-- An effect on the world of a desk. -/
def onWorld {α : Type} (effect : Effect World α) : Effect (Desk C T World) α :=
  effect.within world fun world desk => { desk with world }

/-- The outlets of a desk, which lead to its world. -/
def lift (outlets : Outlets C T World) : Outlets C T (Desk C T World) where
  print console pieces := onWorld (outlets.print console pieces)
  deliver transport record := onWorld (outlets.deliver transport record)

variable (outlets : Outlets C T World)

/-- Makes a call to the logger. -/
def log (stamp : Stamp) (call : Call) (desk : Desk C T World) : Desk C T World :=
  let (answer, after) := (desk.logger.log (lift outlets) (fun logger desk => { desk with logger })
    stamp call).outcome desk
  { after with
    records := desk.records ++ ((desk.logger.accept? stamp call).map Prod.fst).toList
    faults := desk.faults ++ faultsOf answer }

/-- Does a task at a clock reading. -/
def perform (desk : Desk C T World) : Stamp × Task T → Desk C T World
  | (stamp, .log call) => desk.log outlets stamp call
  | (_, .set setting) => { desk with logger := setting.apply desk.logger }

def run (desk : Desk C T World) (tasks : List (Stamp × Task T)) : Desk C T World :=
  tasks.foldl (perform outlets) desk

variable {outlets}

theorem run_append (desk : Desk C T World) (before after : List (Stamp × Task T)) :
    desk.run outlets (before ++ after) = (desk.run outlets before).run outlets after :=
  List.foldl_append

@[simp] theorem run_grown (desk : Desk C T World) (tasks : List (Stamp × Task T))
    (task : Stamp × Task T) :
    desk.run outlets (tasks ++ [task]) = (desk.run outlets tasks).perform outlets task := by
  rw [run_append]
  rfl

theorem outcome_onWorld {α : Type} (effect : Effect World α) (desk : Desk C T World) :
    (onWorld effect).outcome desk = ((effect.outcome desk.world).1,
      { desk with world := (effect.outcome desk.world).2 }) :=
  Effect.outcome_within _ _ effect desk

theorem onWorld_pure : onWorld (pure () : Effect World Unit) =
    (pure () : Effect (Desk C T World) Unit) := rfl

theorem print_lift (logger : Logger C T) (record : Record) :
    logger.print (lift outlets) record = onWorld (logger.print outlets record) := by
  unfold Logger.print
  split
  · rfl
  · exact onWorld_pure.symm

theorem send_lift (logger : Logger C T) (record : Record) :
    logger.send (lift outlets) record = onWorld (logger.send outlets record) := by
  unfold Logger.send
  split
  · rfl
  · exact onWorld_pure.symm

/-- A record goes to the world as it would without the desk. -/
theorem outcome_emit_lift (logger : Logger C T) (record : Record) (desk : Desk C T World) :
    (logger.emit (lift outlets) record).outcome desk =
      (((logger.emit outlets record).outcome desk.world).1,
        { desk with world := ((logger.emit outlets record).outcome desk.world).2 }) := by
  rw [Logger.emit, Logger.emit, print_lift, send_lift]
  have hlifted := outcome_onWorld (logger.print outlets record) desk
  rcases hprint : (logger.print outlets record).outcome desk.world with ⟨answer, world⟩
  rw [hprint] at hlifted
  cases answer with
  | ok value =>
      rw [Effect.outcome_bind_of_ok hlifted, Effect.outcome_bind_of_ok hprint, outcome_onWorld]
  | error fault =>
      rw [Effect.outcome_bind_of_error hlifted, Effect.outcome_bind_of_error hprint]

/-- What a call to the logger does: nothing when it is below the threshold; else the logger has
counted it, and its record goes to the outlets. -/
theorem log_eq (desk : Desk C T World) (stamp : Stamp) (call : Call) :
    desk.log outlets stamp call =
      if desk.logger.minLevel ≤ call.level then
        let (record, counted) := desk.logger.number stamp call
        let (answer, world) := (counted.emit outlets record).outcome desk.world
        { logger := counted
          world
          records := desk.records ++ [record]
          faults := desk.faults ++ faultsOf answer }
      else desk := by
  by_cases h : desk.logger.minLevel ≤ call.level
  · have haccept : desk.logger.accept? stamp call = some (desk.logger.number stamp call) := by
      simp [Logger.accept?, Logger.enabled, h]
    rw [if_pos h, log, Logger.log, haccept]
    simp only [Effect.outcome_bind_of_ok (Effect.outcome_modify _ desk), outcome_emit_lift]
    rfl
  · have haccept : desk.logger.accept? stamp call = none := by
      simp [Logger.accept?, Logger.enabled, h]
    rw [if_neg h, log, Logger.log, haccept]
    simp [faultsOf]

theorem records_log (desk : Desk C T World) (stamp : Stamp) (call : Call) :
    (desk.log outlets stamp call).records =
      desk.records ++ ((desk.logger.accept? stamp call).map Prod.fst).toList := rfl

theorem minLevel_log (desk : Desk C T World) (stamp : Stamp) (call : Call) :
    (desk.log outlets stamp call).logger.minLevel = desk.logger.minLevel := by
  rw [log_eq]
  split <;> rfl

theorem minLevel_perform (desk : Desk C T World) (task : Stamp × Task T) :
    (desk.perform outlets task).logger.minLevel = task.2.minLevel?.getD desk.logger.minLevel := by
  obtain ⟨stamp, task⟩ := task
  cases task with
  | log call => exact desk.minLevel_log stamp call
  | set setting => cases setting <;> rfl

end Desk

end Logbook
