/-
A logger whose outlets may fail at any record, in the hands of a program that catches the faults.
Its lock is marked by the first fault that is raised while it is taken, and whoever takes it later
passes over the mark.

What the outlets do shows nowhere but in their own world.  To see this, a desk is held against
another one with the same tasks and a simpler world, to which only a part of the first world is
mapped.  Two desks that are held against the same third one agree on that part.  Main statements:
`GuardedDesk.Reflects.run`, and `undisturbed_runs`, which compares programs that differ in nothing
but their outlets.
-/
import Logbook.Proofs.Desk.Drafts
import Logbook.Proofs.Desk.Outputs
import Logbook.Proofs.Tape.Memory

namespace Logbook

/-- A value behind a lock.  A fault that is raised while the lock is taken leaves a mark on it. -/
structure Guarded (α : Type) where
  value : α
  marked : Bool := false

namespace Guarded

variable {α : Type}

/-- Takes the lock.  Behind a mark the value comes with a warning: it may be left halfway. -/
def take (guarded : Guarded α) : Except α α :=
  if guarded.marked then .error guarded.value else .ok guarded.value

/-- Takes the lock and passes over the warning. -/
def takeAnyway (guarded : Guarded α) : α :=
  match guarded.take with
  | .ok value => value
  | .error value => value

@[simp] theorem takeAnyway_eq (guarded : Guarded α) : guarded.takeAnyway = guarded.value := by
  unfold takeAnyway take
  cases guarded.marked <;> rfl

end Guarded

variable {C T World Other : Type}

/-- What a program may ask of its logger and of its drafts. -/
inductive Question where
  | nodeName
  | minLevel
  | enabled (level : Level)
  | localOutput
  | remoteOutput
  | hasTransport
  | nextSeq
  | draft (id : Nat)

inductive Reply where
  | text (s : String)
  | level (level : Level)
  | flag (on : Bool)
  | number (seq : UInt32)
  | draft (draft : Option Draft)
  deriving DecidableEq, Repr

/-- The reply to a question.  The name and the threshold are read without the lock. -/
def Question.reply (lock : Guarded (Logger C T)) (drafts : List (Option Draft)) :
    Question → Reply
  | .nodeName => .text lock.value.nodeName
  | .minLevel => .level lock.value.minLevel
  | .enabled level => .flag (lock.value.enabled level)
  | .localOutput => .flag lock.takeAnyway.localOutput
  | .remoteOutput => .flag lock.takeAnyway.remoteOutput
  | .hasTransport => .flag lock.takeAnyway.transport.isSome
  | .nextSeq => .number lock.takeAnyway.nextSeq
  | .draft id => .draft drafts[id]?.join

/-- A mark makes no difference to a reply. -/
theorem Question.reply_eq (lock : Guarded (Logger C T)) (drafts : List (Option Draft))
    (question : Question) :
    question.reply lock drafts = question.reply ⟨lock.value, false⟩ drafts := by
  cases question <;> simp [reply]

/-- What a program does with a logger and with drafts for it, and what it asks. -/
inductive Errand (T : Type) where
  | task (task : DraftTask T)
  | ask (question : Question)

/-- The tasks among some errands. -/
def tasksOf : List (Stamp × Errand T) → List (Stamp × DraftTask T)
  | [] => []
  | (stamp, .task task) :: rest => (stamp, task) :: tasksOf rest
  | (_, .ask _) :: rest => tasksOf rest

/-- A logger behind a lock, in the hands of a program with its drafts, and the replies it got. -/
structure GuardedDesk (C T World : Type) where
  inner : DraftingDesk C T World
  marked : Bool := false
  replies : List Reply := []

namespace GuardedDesk

variable (outlets : Outlets C T World)

def lock (s : GuardedDesk C T World) : Guarded (Logger C T) :=
  ⟨s.inner.desk.logger, s.marked⟩

/-- The desk with the logger that is found behind the lock. -/
def unlocked (s : GuardedDesk C T World) : DraftingDesk C T World :=
  { s.inner with desk := { s.inner.desk with logger := s.lock.takeAnyway } }

@[simp] theorem unlocked_eq (s : GuardedDesk C T World) : s.unlocked = s.inner := by
  simp [unlocked, lock]

/-- Runs an errand at a clock reading.  A fault comes back to the program, and marks the lock. -/
def perform (s : GuardedDesk C T World) : Stamp × Errand T → GuardedDesk C T World
  | (stamp, .task task) =>
      let after := s.unlocked.perform outlets (stamp, task)
      { s with
        inner := after
        marked := s.marked || decide (s.inner.desk.faults.length < after.desk.faults.length) }
  | (_, .ask question) =>
      { s with replies := s.replies ++ [question.reply s.lock s.inner.drafts] }

def run (s : GuardedDesk C T World) (errands : List (Stamp × Errand T)) : GuardedDesk C T World :=
  errands.foldl (perform outlets) s

/-- A logger after a plan in a world, before the first errand. -/
def start (plan : LoggerPlan C T) (standard : C) (world : World) : GuardedDesk C T World where
  inner := { desk := { logger := plan.build standard, world } }

variable {outlets}

/-- The mark on the lock and the questions make no difference to the tasks. -/
theorem inner_run (s : GuardedDesk C T World) (errands : List (Stamp × Errand T)) :
    (s.run outlets errands).inner = s.inner.run outlets (tasksOf errands) := by
  induction errands generalizing s with
  | nil => rfl
  | cons errand rest ih =>
      obtain ⟨stamp, errand⟩ := errand
      cases errand with
      | task task =>
          have hinner : (s.perform outlets (stamp, .task task)).inner =
              s.inner.perform outlets (stamp, task) := by
            simp [perform]
          have hrest := ih (s.perform outlets (stamp, .task task))
          rw [hinner] at hrest
          exact hrest
      | ask question => exact ih (s.perform outlets (stamp, .ask question))

end GuardedDesk

/-- What some outlets do in a world is what other outlets do in the part of it that is mapped. -/
def Mirrors (map : World → Other) (outlets : Outlets C T World) (others : Outlets C T Other) :
    Prop :=
  ∀ (logger : Logger C T) (record : Record) (world : World),
    ((logger.emit others record).outcome (map world)).2 =
      map ((logger.emit outlets record).outcome world).2

namespace Desk

/-- A desk is like another one, as far as its world is mapped. -/
structure Reflects (map : World → Other) (desk : Desk C T World) (other : Desk C T Other) :
    Prop where
  logger : other.logger = desk.logger
  records : other.records = desk.records
  world : other.world = map desk.world

section

variable {map : World → Other} {outlets : Outlets C T World} {others : Outlets C T Other}
  {desk : Desk C T World} {other : Desk C T Other}

/-- A call that is accepted is counted and put down whatever the outlets do. -/
theorem Reflects.log (hmirrors : Mirrors map outlets others) (h : Reflects map desk other)
    (stamp : Stamp) (call : Call) :
    Reflects map (desk.log outlets stamp call) (other.log others stamp call) := by
  rw [log_eq, log_eq, h.logger]
  split
  · refine ⟨rfl, by rw [h.records], ?_⟩
    change ((Logger.emit others _ _).outcome other.world).2 = _
    rw [h.world]
    exact hmirrors _ _ _
  · exact h

theorem Reflects.perform (hmirrors : Mirrors map outlets others) (h : Reflects map desk other)
    (task : Stamp × Task T) :
    Reflects map (desk.perform outlets task) (other.perform others task) := by
  obtain ⟨stamp, task⟩ := task
  cases task with
  | log call => exact h.log hmirrors stamp call
  | set setting => exact ⟨congrArg setting.apply h.logger, h.records, h.world⟩

theorem Reflects.run (hmirrors : Mirrors map outlets others) (h : Reflects map desk other)
    (tasks : List (Stamp × Task T)) :
    Reflects map (desk.run outlets tasks) (other.run others tasks) := by
  induction tasks generalizing desk other with
  | nil => exact h
  | cons task rest ih => exact ih (h.perform hmirrors task)

end

end Desk

namespace GuardedDesk

/-- A guarded desk is like another one, as far as its world is mapped. -/
structure Reflects (map : World → Other) (s : GuardedDesk C T World)
    (other : GuardedDesk C T Other) : Prop where
  desk : s.inner.desk.Reflects map other.inner.desk
  drafts : other.inner.drafts = s.inner.drafts
  replies : other.replies = s.replies

variable {map : World → Other} {outlets : Outlets C T World} {others : Outlets C T Other}
  {s : GuardedDesk C T World} {other : GuardedDesk C T Other}

theorem Reflects.perform (hmirrors : Mirrors map outlets others) (h : Reflects map s other)
    (errand : Stamp × Errand T) :
    Reflects map (s.perform outlets errand) (other.perform others errand) := by
  obtain ⟨stamp, errand⟩ := errand
  cases errand with
  | ask question =>
      refine ⟨h.desk, h.drafts, ?_⟩
      simp only [GuardedDesk.perform]
      rw [h.replies, h.drafts, question.reply_eq other.lock, question.reply_eq s.lock]
      simp only [lock, h.desk.logger]
  | task task =>
      simp only [GuardedDesk.perform, unlocked_eq]
      cases task with
      | plain task => exact ⟨h.desk.perform hmirrors (stamp, task), h.drafts, h.replies⟩
      | start level location =>
          refine ⟨h.desk, ?_, h.replies⟩
          simp only [DraftingDesk.perform, h.drafts, h.desk.logger]
      | push id text =>
          refine ⟨h.desk, ?_, h.replies⟩
          simp only [DraftingDesk.perform, h.drafts]
      | finish id =>
          have hcall : other.inner.callOf id = s.inner.callOf id := by
            simp only [DraftingDesk.callOf, h.drafts]
          simp only [DraftingDesk.perform, DraftingDesk.finish_eq, hcall]
          refine ⟨h.desk.run hmirrors _, ?_, h.replies⟩
          simp only [h.drafts]

/-- Held against another desk, a desk stays like it. -/
theorem Reflects.run (hmirrors : Mirrors map outlets others) (h : Reflects map s other)
    (errands : List (Stamp × Errand T)) :
    Reflects map (s.run outlets errands) (other.run others errands) := by
  induction errands generalizing s other with
  | nil => exact h
  | cons errand rest ih => exact ih (h.perform hmirrors errand)

theorem reflects_start (map : World → Other) (plan : LoggerPlan C T) (standard : C)
    (world : World) : Reflects map (start plan standard world) (start plan standard (map world)) :=
  ⟨⟨rfl, rfl, rfl⟩, rfl, rfl⟩

end GuardedDesk

/-- Outlets that do nothing. -/
def idle : Outlets C T Unit where
  print _ _ := pure ()
  deliver _ _ := pure ()

theorem mirrors_idle (outlets : Outlets C T World) : Mirrors (fun _ => ()) outlets idle :=
  fun _ _ _ => rfl

/-- A console has to answer alike, since the transport is left out after a fault.  What a transport
answers makes no difference. -/
theorem mirrors_of_outlets {map : World → Other} {outlets : Outlets C T World}
    {others : Outlets C T Other}
    (hprint : ∀ console pieces world,
      (others.print console pieces).outcome (map world) =
        (((outlets.print console pieces).outcome world).1,
          map ((outlets.print console pieces).outcome world).2))
    (hdeliver : ∀ transport record world,
      ((others.deliver transport record).outcome (map world)).2 =
        map ((outlets.deliver transport record).outcome world).2) :
    Mirrors map outlets others := by
  intro logger record world
  have hline : (logger.print others record).outcome (map world) =
      (((logger.print outlets record).outcome world).1,
        map ((logger.print outlets record).outcome world).2) := by
    unfold Logger.print
    split
    · exact hprint _ _ _
    · rfl
  have hsend : ∀ world, ((logger.send others record).outcome (map world)).2 =
      map ((logger.send outlets record).outcome world).2 := by
    intro world
    unfold Logger.send
    split
    · exact hdeliver _ _ _
    · rfl
  rcases hprinted : (logger.print outlets record).outcome world with ⟨answer, after⟩
  rw [hprinted] at hline
  rw [Logger.emit, Logger.emit]
  cases answer with
  | error fault =>
      rw [Effect.outcome_bind_of_error hline, Effect.outcome_bind_of_error hprinted]
  | ok value =>
      rw [Effect.outcome_bind_of_ok hline, Effect.outcome_bind_of_ok hprinted]
      exact hsend after

variable {P P' R R' : Type}

/-- Consoles and transports that have nothing to do with each other. -/
def beside (print : C → List (List UInt8) → Effect P Unit) (deliver : T → Record → Effect R Unit) :
    Outlets C T (P × R) where
  print console pieces := (print console pieces).within Prod.fst fun place world => (place, world.2)
  deliver transport record :=
    (deliver transport record).within Prod.snd fun rest world => (world.1, rest)

/-- Only the consoles. -/
def printing (print : C → List (List UInt8) → Effect P Unit) : Outlets C T P where
  print := print
  deliver _ _ := pure ()

/-- Only the transports. -/
def sending (deliver : T → Record → Effect R Unit) : Outlets C T R where
  print _ _ := pure ()
  deliver := deliver

section Beside

variable (print : C → List (List UInt8) → Effect P Unit) (deliver : T → Record → Effect R Unit)
  (logger : Logger C T) (record : Record) (world : P × R)

/-- Printing leaves the transports alone. -/
theorem outcome_print_beside :
    (logger.print (beside print deliver) record).outcome world =
      (((logger.print (printing (T := T) print) record).outcome world.1).1,
        (((logger.print (printing (T := T) print) record).outcome world.1).2, world.2)) := by
  unfold Logger.print
  split
  · exact Effect.outcome_within _ _ _ _
  · rfl

/-- Sending leaves the consoles alone. -/
theorem outcome_send_beside :
    (logger.send (beside print deliver) record).outcome world =
      (((logger.send (sending (C := C) deliver) record).outcome world.2).1,
        (world.1, ((logger.send (sending (C := C) deliver) record).outcome world.2).2)) := by
  unfold Logger.send
  split
  · exact Effect.outcome_within _ _ _ _
  · rfl

end Beside

/-- The console comes first, so a transport can do nothing to it. -/
theorem mirrors_fst (print : C → List (List UInt8) → Effect P Unit)
    (deliver : T → Record → Effect R Unit) :
    Mirrors Prod.fst (beside print deliver) (printing (T := T) print) :=
  mirrors_of_outlets (fun _ _ _ => by simp [beside, printing, Effect.outcome_within])
    (fun _ _ _ => by simp [beside, printing, Effect.outcome_within])

/-- A console that raises no fault can do nothing to a transport. -/
theorem mirrors_snd {print : C → List (List UInt8) → Effect P Unit}
    (hprint : ∀ console pieces place, ((print console pieces).outcome place).1 = .ok ())
    (deliver : T → Record → Effect R Unit) :
    Mirrors Prod.snd (beside print deliver) (sending (C := C) deliver) := by
  intro logger record world
  have hbeside := outcome_print_beside print deliver logger record world
  have hok : ((logger.print (printing (T := T) print) record).outcome world.1).1 = .ok () := by
    unfold Logger.print
    split
    · exact hprint _ _ _
    · rfl
  have hidle : (logger.print (sending (C := C) deliver) record).outcome world.2 =
      (.ok (), world.2) := by
    unfold Logger.print
    split <;> rfl
  rw [hok] at hbeside
  rw [Logger.emit, Logger.emit, Effect.outcome_bind_of_ok hbeside,
    Effect.outcome_bind_of_ok hidle, outcome_send_beside]

/-- The place of the consoles, and the bytes of every call to write so far. -/
structure Overheard (C P : Type) where
  place : P
  handed : List (C × List UInt8) := []

/-- A writer with somebody who listens to what it is handed, whatever it makes of that. -/
def overhear (writers : C → Writer P) (console : C) : Writer (Overheard C P) where
  write given := do
    modify fun world => { world with handed := world.handed ++ [(console, given)] }
    ((writers console).write given).within Overheard.place fun place world => { world with place }
  flush := (writers console).flush.within Overheard.place fun place world => { world with place }

/-- What the transports have come to, and the calls to them so far. -/
structure Witnessed (T R : Type) where
  rest : R
  calls : List (T × Record) := []

/-- Outlets that may fail in any way: the consoles at any call to write, after any part of it, and
the transports at any record. -/
def attempted (writers : C → Writer P) (acts : T → Record → Effect R Unit) :
    Outlets C T (Overheard C P × Witnessed T R) :=
  beside
    (fun console pieces => do
      let _ ← (overhear writers console).writePieces pieces)
    fun transport record => do
      modify fun world => { world with calls := world.calls ++ [(transport, record)] }
      (acts transport record).within Witnessed.rest fun rest world => { world with rest }

/-- A writer may fail at any call, but raises no fault. -/
def Writer.Calm {World : Type} (writer : Writer World) : Prop :=
  ∀ given world, ∃ answer world', (writer.write given).outcome world = (.ok answer, world')

structure CalmWriter (World : Type) extends Writer World where
  calm : toWriter.Calm

namespace Writer

variable {World : Type} {writer : Writer World}

theorem Calm.writeAll (h : writer.Calm) (given : List UInt8) (world : World) :
    ∃ answer world', (writer.writeAll given).outcome world = (.ok answer, world') := by
  have hgoes := writer.goes_writeAll given world
  generalize (writer.writeAll given).outcome world = outcome at hgoes
  induction hgoes with
  | done world => exact ⟨_, _, rfl⟩
  | raised hraised =>
      obtain ⟨answer, world', hanswer⟩ := h _ _
      rw [hraised] at hanswer
      simp at hanswer
  | failed hfailed => exact ⟨_, _, rfl⟩
  | stalled hstalled => exact ⟨_, _, rfl⟩
  | more hmore hrest ih => exact ih

theorem Calm.writePieces (h : writer.Calm) (pieces : List (List UInt8)) (world : World) :
    ∃ answer world', (writer.writePieces pieces).outcome world = (.ok answer, world') := by
  induction pieces generalizing world with
  | nil => exact ⟨_, _, rfl⟩
  | cons piece rest ih =>
      obtain ⟨answer, world', hanswer⟩ := h.writeAll piece world
      rw [Writer.writePieces, Effect.outcome_bind_of_ok hanswer]
      cases answer with
      | error reason => exact ⟨_, _, rfl⟩
      | ok done => exact ih world'

end Writer

/-- Listening to a calm writer raises no fault. -/
theorem calm_overhear (writers : C → CalmWriter P) (console : C) :
    (overhear (fun console => (writers console).toWriter) console).Calm := by
  intro given world
  obtain ⟨answer, place, hwrite⟩ := (writers console).calm given world.place
  refine ⟨answer, { world with handed := world.handed ++ [(console, given)], place }, ?_⟩
  simp only [overhear, Effect.outcome_bind_of_ok (Effect.outcome_modify _ world),
    Effect.outcome_within, hwrite]

namespace GuardedDesk

/-- A program with outlets that may fail in any way, after some errands. -/
def attempt (plan : LoggerPlan C T) (standard : C) (writers : C → Writer P)
    (acts : T → Record → Effect R Unit) (place : P) (rest : R)
    (errands : List (Stamp × Errand T)) : GuardedDesk C T (Overheard C P × Witnessed T R) :=
  (start plan standard ({ place }, { rest })).run (attempted writers acts) errands

/-- Two programs can tell no difference between their loggers. -/
structure Alike (s : GuardedDesk C T World) (s' : GuardedDesk C T Other) : Prop where
  /-- The counter, the threshold, the switches, the transport and all the rest of the logger. -/
  logger : s.inner.desk.logger = s'.inner.desk.logger
  records : s.inner.desk.records = s'.inner.desk.records
  drafts : s.inner.drafts = s'.inner.drafts
  replies : s.replies = s'.replies

/-- The errands alone say what the logger is. -/
structure Kept (plan : LoggerPlan C T) (standard : C) (errands : List (Stamp × Errand T))
    (s : GuardedDesk C T World) : Prop where
  /-- The settings are those that were made last, and the counter is ahead of its start by the
  number of accepted calls, the ends of drafts among them. -/
  logger : s.inner.desk.logger =
    plan.loggerAfter standard (plainly plan.minLevel [] (tasksOf errands))
  /-- The accepted calls have consecutive numbers, also those that raised a fault. -/
  records : s.inner.desk.records =
    (plan.logged (plainly plan.minLevel [] (tasksOf errands))).map Logged.record

theorem Alike.symm {s : GuardedDesk C T World} {s' : GuardedDesk C T Other} (h : Alike s s') :
    Alike s' s :=
  ⟨h.logger.symm, h.records.symm, h.drafts.symm, h.replies.symm⟩

theorem Alike.trans {Third : Type} {s : GuardedDesk C T World} {s' : GuardedDesk C T Other}
    {s'' : GuardedDesk C T Third} (h : Alike s s') (h' : Alike s' s'') : Alike s s'' :=
  ⟨h.logger.trans h'.logger, h.records.trans h'.records, h.drafts.trans h'.drafts,
    h.replies.trans h'.replies⟩

/-- Outlets that do nothing would do as well. -/
theorem alike_idle (outlets : Outlets C T World) (plan : LoggerPlan C T) (standard : C)
    (world : World) (errands : List (Stamp × Errand T)) :
    Alike ((start plan standard world).run outlets errands)
      ((start plan standard ()).run idle errands) := by
  have h := (reflects_start (fun _ => ()) plan standard world).run (mirrors_idle outlets) errands
  exact ⟨h.desk.logger.symm, h.desk.records.symm, h.drafts.symm, h.replies.symm⟩

/-- With outlets that never fail it is known what a program comes to. -/
theorem kept_attended {Place : Type} (plan : LoggerPlan C T) (standard : C)
    (tapes : C → Endless Place) (act : T → Record → R → R) (place : Place) (rest : R)
    (errands : List (Stamp × Errand T)) :
    Kept plan standard errands
      ((start plan standard { place, rest }).run (attended tapes act) errands) := by
  have hdesk : ((start plan standard { place, rest }).run (attended tapes act) errands).inner.desk =
      Desk.run (attended tapes act) { logger := plan.build standard, world := { place, rest } }
        (plainly plan.minLevel [] (tasksOf errands)) := by
    rw [inner_run]
    exact DraftingDesk.desk_run (List.map_nil.symm : [] = [].map (Option.map Sketch.draft)) _
  have hknown := Desk.invariant_run plan standard tapes act place rest
    (plainly plan.minLevel [] (tasksOf errands))
  rw [← hdesk] at hknown
  exact ⟨hknown.logger, hknown.records⟩

theorem kept_run (outlets : Outlets C T World) (plan : LoggerPlan C T) (standard : C)
    (world : World) (errands : List (Stamp × Errand T)) :
    Kept plan standard errands ((start plan standard world).run outlets errands) := by
  -- Outlets that never fail are as good as any others.
  have halike := (alike_idle outlets plan standard world errands).trans
    (alike_idle (attended (fun _ => Memory.endless) fun _ _ rest => rest) plan standard
      ⟨([], 0), (), []⟩ errands).symm
  have hkept := kept_attended plan standard (fun _ => Memory.endless)
    (fun (_ : T) _ (rest : Unit) => rest) ([], 0) () errands
  exact ⟨halike.logger.trans hkept.logger, halike.records.trans hkept.records⟩

/-- The consoles come to what they would come to without transports. -/
theorem consoles_attempt (plan : LoggerPlan C T) (standard : C) (writers : C → Writer P)
    (acts : T → Record → Effect R Unit) (place : P) (rest : R)
    (errands : List (Stamp × Errand T)) :
    (attempt plan standard writers acts place rest errands).inner.desk.world.1 =
      ((start plan standard { place }).run (printing fun console pieces => do
        let _ ← (overhear writers console).writePieces pieces) errands).inner.desk.world :=
  ((reflects_start Prod.fst plan standard _).run (mirrors_fst _ _) errands).desk.world.symm

/-- The transports come to what they would come to without consoles. -/
theorem transports_attempt (plan : LoggerPlan C T) (standard : C) (writers : C → CalmWriter P)
    (acts : T → Record → Effect R Unit) (place : P) (rest : R)
    (errands : List (Stamp × Errand T)) :
    (attempt plan standard (fun console => (writers console).toWriter) acts place rest
        errands).inner.desk.world.2 =
      ((start plan standard { rest }).run (sending fun transport record => do
        modify fun world => { world with calls := world.calls ++ [(transport, record)] }
        (acts transport record).within Witnessed.rest fun rest world => { world with rest })
          errands).inner.desk.world := by
  have hprint : ∀ (console : C) (pieces : List (List UInt8)) (world : Overheard C P),
      ((do let _ ← (overhear (fun console => (writers console).toWriter) console).writePieces
              pieces : Effect (Overheard C P) Unit).outcome world).1 = .ok () := by
    intro console pieces world
    obtain ⟨answer, world', hcalm⟩ := (calm_overhear writers console).writePieces pieces world
    rw [Effect.outcome_bind_of_ok hcalm]
    rfl
  exact ((reflects_start Prod.snd plan standard _).run (mirrors_snd hprint _)
    errands).desk.world.symm

/-- What outlets do, whether they succeed, fail or raise faults, makes no difference to a logger;
what transports do makes none to the consoles, and what consoles do makes none to the transports
as long as they raise no fault. -/
theorem undisturbed_runs {P' R' : Type} (plan : LoggerPlan C T) (standard : C)
    (errands : List (Stamp × Errand T)) (writers : C → Writer P) (writers' : C → Writer P')
    (calm : C → CalmWriter P) (calm' : C → CalmWriter P') (acts : T → Record → Effect R Unit)
    (acts' : T → Record → Effect R' Unit) (place : P) (place' : P') (rest : R) (rest' : R') :
    Kept plan standard errands (attempt plan standard writers acts place rest errands) ∧
    Alike (attempt plan standard writers acts place rest errands)
      (attempt plan standard writers' acts' place' rest' errands) ∧
    (attempt plan standard writers acts place rest errands).inner.desk.world.1 =
      (attempt plan standard writers acts' place rest' errands).inner.desk.world.1 ∧
    (attempt plan standard (fun console => (calm console).toWriter) acts place rest
        errands).inner.desk.world.2 =
      (attempt plan standard (fun console => (calm' console).toWriter) acts place' rest
        errands).inner.desk.world.2 := by
  refine ⟨kept_run _ plan standard _ errands, ?_, ?_, ?_⟩
  · exact (alike_idle _ plan standard _ errands).trans (alike_idle _ plan standard _ errands).symm
  · rw [consoles_attempt, consoles_attempt]
  · rw [transports_attempt, transports_attempt]

end GuardedDesk

namespace MishapsWitness

/-- A transport that raises a fault at every record. -/
def broken (_ : Unit) (_ : Record) : Effect Unit Unit :=
  throw (.raised "transport down")

def plan : LoggerPlan Unit Unit := { nodeName := "arm", transport := some () }

/-- Two calls that raise a fault are counted and printed, and the second finds the lock marked. -/
example :
    let after := GuardedDesk.attempt plan () (fun _ => Memory.alone) broken {} ()
      [(⟨0, 0⟩, .task (.plain (.log ⟨.info, "a", none⟩))),
        (⟨0, 0⟩, .task (.plain (.log ⟨.info, "b", none⟩))), (⟨0, 0⟩, .ask .nextSeq)]
    after.marked = true ∧ after.replies = [.number 2] ∧ after.inner.desk.world.2.calls.length = 2 ∧
      Memory.lineCount after.inner.desk.world.1.place.held = 2 := by
  decide +kernel

end MishapsWitness

end Logbook
