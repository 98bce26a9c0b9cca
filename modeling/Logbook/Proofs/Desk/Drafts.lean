/-
A program alone with a logger and with drafts for it.  Any number of drafts may be open, and they
end in any order, between calls and changes of the settings.  A draft decides whether to gather
text when it is begun, and its call is held against the threshold once more when it ends.

A sketch decides nothing: it keeps the threshold at its beginning and gathers all text.  With the
sketches at hand every end of a draft can be replaced by a plain call or by nothing, and nobody
can tell the difference, whatever the outlets do.  Main statement: `refined_run`.
-/
import Logbook.Draft
import Logbook.Proofs.Chronicle
import Logbook.Proofs.Desk
import Mathlib.Data.List.Induction

namespace Logbook

variable {C T World : Type}

/-- What a program does with a logger and drafts for it.  Drafts are numbered in the order in which
they are begun. -/
inductive DraftTask (T : Type) where
  | plain (task : Task T)
  | start (level : Level) (location : Option Location)
  | push (id : Nat) (text : String)
  | finish (id : Nat)

namespace DraftTask

/-- The threshold that is set. -/
def minLevel? : DraftTask T → Option Level
  | .plain task => task.minLevel?
  | _ => none

def isStart : DraftTask T → Bool
  | .start _ _ => true
  | _ => false

/-- The text that is added to a certain draft. -/
def push? (id : Nat) : DraftTask T → Option String
  | .push other text => if other = id then some text else none
  | _ => none

/-- The draft that is ended. -/
def finish? : DraftTask T → Option Nat
  | .finish id => some id
  | _ => none

end DraftTask

/-- The number of drafts that were begun. -/
def begunDrafts (tasks : List (Stamp × DraftTask T)) : Nat :=
  tasks.countP (·.2.isStart)

/-- The texts that were added to a draft. -/
def pushedTexts (id : Nat) (tasks : List (Stamp × DraftTask T)) : List String :=
  tasks.filterMap (·.2.push? id)

theorem pushedTexts_grown (id : Nat) (tasks : List (Stamp × DraftTask T))
    (task : Stamp × DraftTask T) :
    pushedTexts id (tasks ++ [task]) = pushedTexts id tasks ++ (task.2.push? id).toList :=
  filterMap_grown _ _ _

/-- The drafts that were ended, in order. -/
def finishedDrafts (tasks : List (Stamp × DraftTask T)) : List Nat :=
  tasks.filterMap (·.2.finish?)

/-- The threshold of a logger after some tasks. -/
def thresholdAfter (start : Level) (tasks : List (Stamp × DraftTask T)) : Level :=
  lastOf (·.2.minLevel?) start tasks

/-- A logger in the hands of a program with its drafts, of which those that have ended leave their
places empty, and the records that drafts became. -/
structure DraftingDesk (C T World : Type) where
  desk : Desk C T World
  drafts : List (Option Draft) := []
  yielded : List (Nat × Record) := []

namespace DraftingDesk

/-- The call that the end of a draft makes, if it is open and makes any. -/
def callOf (s : DraftingDesk C T World) (id : Nat) : Option Call :=
  s.drafts[id]?.join.bind Draft.call?

/-- The record that the end of a draft makes, if its call is accepted. -/
def recordOf (s : DraftingDesk C T World) (stamp : Stamp) (id : Nat) : Option Record :=
  (s.callOf id).bind fun call => (s.desk.logger.accept? stamp call).map Prod.fst

variable (outlets : Outlets C T World)

/-- Ends a draft, which makes its call. -/
def finish (stamp : Stamp) (id : Nat) (s : DraftingDesk C T World) : DraftingDesk C T World :=
  let ended := { s with drafts := s.drafts.set id none }
  match s.callOf id with
  | none => ended
  | some call =>
      let desk := s.desk.log outlets stamp call
      { ended with
        desk
        yielded := s.yielded ++ (desk.records.drop s.desk.records.length).map (id, ·) }

/-- Does a task at a clock reading. -/
def perform (s : DraftingDesk C T World) : Stamp × DraftTask T → DraftingDesk C T World
  | (stamp, .plain task) => { s with desk := s.desk.perform outlets (stamp, task) }
  | (_, .start level location) =>
      { s with drafts := s.drafts ++ [some (.start s.desk.logger level location)] }
  | (_, .push id text) => { s with drafts := s.drafts.modify id (Option.map (·.push text)) }
  | (stamp, .finish id) => s.finish outlets stamp id

def run (s : DraftingDesk C T World) (tasks : List (Stamp × DraftTask T)) :
    DraftingDesk C T World :=
  tasks.foldl (perform outlets) s

/-- The records that a draft became. -/
def yields (s : DraftingDesk C T World) (id : Nat) : List Record :=
  s.yielded.filterMap fun entry => if entry.1 = id then some entry.2 else none

end DraftingDesk

/-- A draft as it would be without decisions: the threshold at its beginning, and all text that was
added to it. -/
structure Sketch where
  level : Level
  location : Option Location
  threshold : Level
  text : String := ""

namespace Sketch

def add (text : String) (sketch : Sketch) : Sketch :=
  { sketch with text := sketch.text ++ text }

/-- The call that stands for the end of the draft. -/
def call? (sketch : Sketch) : Option Call :=
  if sketch.threshold ≤ sketch.level ∧ sketch.text ≠ "" then
    some ⟨sketch.level, sketch.text, sketch.location⟩
  else none

/-- The draft of a sketch. -/
def draft (sketch : Sketch) : Draft where
  level := sketch.level
  location := sketch.location
  active := decide (sketch.threshold ≤ sketch.level)
  text := if sketch.threshold ≤ sketch.level then sketch.text else ""

theorem start_eq_draft (logger : Logger C T) (level : Level) (location : Option Location) :
    Draft.start logger level location =
      draft { level, location, threshold := logger.minLevel } := by
  simp [Draft.start, draft, Logger.enabled]

theorem push_draft (sketch : Sketch) (text : String) :
    sketch.draft.push text = (sketch.add text).draft := by
  by_cases h : sketch.threshold ≤ sketch.level <;> simp [Draft.push, draft, add, h]

/-- A draft makes the call that stands for its end. -/
theorem call?_draft (sketch : Sketch) : sketch.draft.call? = sketch.call? := by
  by_cases h : sketch.threshold ≤ sketch.level <;> simp [Draft.call?, draft, call?, h]

end Sketch

/-- The sketches after a task, when the logger had a threshold before it. -/
def sketchesAfter (threshold : Level) (sketches : List (Option Sketch)) :
    DraftTask T → List (Option Sketch)
  | .plain _ => sketches
  | .start level location => sketches ++ [some { level, location, threshold }]
  | .push id text => sketches.modify id (Option.map (·.add text))
  | .finish id => sketches.set id none

/-- What is left of a task without drafts. -/
def plainTasks (sketches : List (Option Sketch)) :
    Stamp × DraftTask T → List (Stamp × Task T)
  | (stamp, .plain task) => [(stamp, task)]
  | (stamp, .finish id) => (sketches[id]?.join.bind Sketch.call?).toList.map (stamp, .log ·)
  | _ => []

/-- What is left of tasks without drafts: the end of a draft is replaced by the call that stands
for it, or by nothing. -/
def plainly (threshold : Level) (sketches : List (Option Sketch)) :
    List (Stamp × DraftTask T) → List (Stamp × Task T)
  | [] => []
  | task :: rest =>
      plainTasks sketches task ++
        plainly (task.2.minLevel?.getD threshold) (sketchesAfter threshold sketches task.2) rest

namespace DraftingDesk

variable {outlets : Outlets C T World}

theorem run_append (s : DraftingDesk C T World) (before after : List (Stamp × DraftTask T)) :
    s.run outlets (before ++ after) = (s.run outlets before).run outlets after :=
  List.foldl_append

theorem run_grown (s : DraftingDesk C T World) (tasks : List (Stamp × DraftTask T))
    (task : Stamp × DraftTask T) :
    s.run outlets (tasks ++ [task]) = (s.run outlets tasks).perform outlets task :=
  s.run_append tasks [task]

/-- What the end of a draft does. -/
theorem finish_eq (s : DraftingDesk C T World) (stamp : Stamp) (id : Nat) :
    s.finish outlets stamp id =
      { desk := s.desk.run outlets ((s.callOf id).toList.map (stamp, .log ·))
        drafts := s.drafts.set id none
        yielded := s.yielded ++ (s.recordOf stamp id).toList.map (id, ·) } := by
  cases hcall : s.callOf id with
  | none => simp [finish, recordOf, hcall, Desk.run]
  | some call => simp [finish, recordOf, hcall, Desk.run, Desk.perform, Desk.records_log]

theorem records_finish (s : DraftingDesk C T World) (stamp : Stamp) (id : Nat) :
    (s.finish outlets stamp id).desk.records =
      s.desk.records ++ (s.recordOf stamp id).toList := by
  cases hcall : s.callOf id with
  | none => simp [finish, recordOf, hcall]
  | some call => simp [finish, recordOf, hcall, Desk.records_log]

section

variable {s : DraftingDesk C T World} {sketches : List (Option Sketch)}

theorem callOf_sketches (h : s.drafts = sketches.map (Option.map Sketch.draft)) (id : Nat) :
    s.callOf id = sketches[id]?.join.bind Sketch.call? := by
  rw [callOf, h, List.getElem?_map]
  rcases sketches[id]? with - | - | sketch
  · rfl
  · rfl
  · exact sketch.call?_draft

/-- A task does to the logger what is left of it without drafts. -/
theorem desk_perform (h : s.drafts = sketches.map (Option.map Sketch.draft))
    (task : Stamp × DraftTask T) :
    (s.perform outlets task).desk = s.desk.run outlets (plainTasks sketches task) := by
  obtain ⟨stamp, task⟩ := task
  cases task with
  | plain task => rfl
  | start level location => rfl
  | push id text => rfl
  | finish id => rw [perform, finish_eq, plainTasks, callOf_sketches h]

/-- The drafts stay those of the sketches. -/
theorem drafts_perform (h : s.drafts = sketches.map (Option.map Sketch.draft))
    (task : Stamp × DraftTask T) :
    (s.perform outlets task).drafts =
      (sketchesAfter s.desk.logger.minLevel sketches task.2).map (Option.map Sketch.draft) := by
  obtain ⟨stamp, task⟩ := task
  cases task with
  | plain task => exact h
  | start level location => simp [perform, sketchesAfter, h, Sketch.start_eq_draft]
  | push id text =>
      apply List.ext_getElem?
      intro place
      simp only [perform, sketchesAfter, h, List.getElem?_modify, List.getElem?_map]
      rcases sketches[place]? with - | - | sketch
      · simp
      · split <;> simp
      · split <;> simp [Sketch.push_draft]
  | finish id => simp [perform, finish_eq, sketchesAfter, h, List.map_set]

end

theorem minLevel_perform (s : DraftingDesk C T World) (task : Stamp × DraftTask T) :
    (s.perform outlets task).desk.logger.minLevel =
      task.2.minLevel?.getD s.desk.logger.minLevel := by
  obtain ⟨stamp, task⟩ := task
  cases task with
  | plain task => exact s.desk.minLevel_perform (stamp, task)
  | start level location => rfl
  | push id text => rfl
  | finish id =>
      change (s.finish outlets stamp id).desk.logger.minLevel = s.desk.logger.minLevel
      unfold finish
      split
      · rfl
      · exact s.desk.minLevel_log stamp _

/-- Tasks do to the logger what is left of them without drafts. -/
theorem desk_run {s : DraftingDesk C T World} {sketches : List (Option Sketch)}
    (h : s.drafts = sketches.map (Option.map Sketch.draft)) (tasks : List (Stamp × DraftTask T)) :
    (s.run outlets tasks).desk =
      s.desk.run outlets (plainly s.desk.logger.minLevel sketches tasks) := by
  induction tasks generalizing s sketches with
  | nil => rfl
  | cons task rest ih =>
      rw [plainly, Desk.run_append, ← desk_perform h, ← minLevel_perform]
      exact ih (drafts_perform h task)

theorem minLevel_run (s : DraftingDesk C T World) (tasks : List (Stamp × DraftTask T)) :
    (s.run outlets tasks).desk.logger.minLevel = thresholdAfter s.desk.logger.minLevel tasks := by
  induction tasks using List.reverseRecOn with
  | nil => rfl
  | append_singleton tasks task ih =>
      rw [run_grown, minLevel_perform, ih, thresholdAfter, thresholdAfter, lastOf_grown]

/-- Every draft that is begun has a place. -/
theorem length_drafts_run (s : DraftingDesk C T World) (tasks : List (Stamp × DraftTask T)) :
    (s.run outlets tasks).drafts.length = s.drafts.length + begunDrafts tasks := by
  induction tasks using List.reverseRecOn with
  | nil => rfl
  | append_singleton tasks task ih =>
      obtain ⟨stamp, task⟩ := task
      rw [run_grown, begunDrafts, List.countP_append, ← Nat.add_assoc, ← begunDrafts, ← ih]
      cases task with
      | plain task => rfl
      | start level location => simp [perform, DraftTask.isStart]
      | push id text => simp [perform, DraftTask.isStart]
      | finish id => simp [perform, finish_eq, DraftTask.isStart]

/-- An open draft stays open until it is ended, and takes the texts that are added to it. -/
theorem drafts_perform_of_open {s : DraftingDesk C T World} {id : Nat} {draft : Draft}
    (h : s.drafts[id]? = some (some draft)) {task : Stamp × DraftTask T}
    (htask : task.2 ≠ .finish id) :
    (s.perform outlets task).drafts[id]? =
      some (some ((task.2.push? id).toList.foldl Draft.push draft)) := by
  obtain ⟨stamp, task⟩ := task
  cases task with
  | plain task => exact h
  | start level location =>
      have hlt := (List.getElem?_eq_some_iff.mp h).1
      simpa [perform, DraftTask.push?, List.getElem?_append_left hlt] using h
  | push other text =>
      by_cases hother : other = id
      · simp [perform, DraftTask.push?, hother, h]
      · simp [perform, DraftTask.push?, hother, h]
  | finish other =>
      have hother : other ≠ id := fun hsame => htask (by rw [hsame])
      simpa [perform, finish_eq, DraftTask.push?, List.getElem?_set_ne hother] using h

theorem drafts_run_of_open {s : DraftingDesk C T World} {id : Nat} {draft : Draft}
    (h : s.drafts[id]? = some (some draft)) {tasks : List (Stamp × DraftTask T)}
    (htasks : ∀ task ∈ tasks, task.2 ≠ .finish id) :
    (s.run outlets tasks).drafts[id]? =
      some (some ((pushedTexts id tasks).foldl Draft.push draft)) := by
  induction tasks using List.reverseRecOn with
  | nil => exact h
  | append_singleton tasks task ih =>
      have hrest := ih fun earlier hearlier => htasks earlier (List.mem_append_left _ hearlier)
      have htask := htasks task (List.mem_append_right _ (List.mem_singleton_self task))
      rw [run_grown, drafts_perform_of_open hrest htask, pushedTexts_grown, List.foldl_append]

/-- A draft that has ended makes no record any more. -/
theorem yields_perform_of_closed {s : DraftingDesk C T World} {id : Nat}
    (h : s.drafts[id]? = some none) (task : Stamp × DraftTask T) :
    (s.perform outlets task).drafts[id]? = some none ∧
      (s.perform outlets task).yields id = s.yields id := by
  obtain ⟨stamp, task⟩ := task
  have hlt := (List.getElem?_eq_some_iff.mp h).1
  cases task with
  | plain task => exact ⟨h, rfl⟩
  | start level location => exact ⟨by simpa [perform, List.getElem?_append_left hlt] using h, rfl⟩
  | push other text =>
      refine ⟨?_, rfl⟩
      by_cases hother : other = id <;> simp [perform, hother, h]
  | finish other =>
      by_cases hother : other = id
      · have hrecord : s.recordOf stamp id = none := by simp [recordOf, callOf, h]
        simp [perform, finish_eq, hother, hrecord, hlt, yields]
      · refine ⟨by simpa [perform, finish_eq, List.getElem?_set_ne hother] using h, ?_⟩
        simp [perform, finish_eq, yields, hother]

theorem yields_run_of_closed {s : DraftingDesk C T World} {id : Nat}
    (h : s.drafts[id]? = some none) (tasks : List (Stamp × DraftTask T)) :
    (s.run outlets tasks).yields id = s.yields id := by
  induction tasks generalizing s with
  | nil => rfl
  | cons task rest ih =>
      obtain ⟨hclosed, hyields⟩ := yields_perform_of_closed h task
      exact (ih hclosed).trans hyields

/-- What every task keeps of the records that drafts became. -/
structure Ledger (tasks : List (Stamp × DraftTask T)) (s : DraftingDesk C T World) : Prop where
  closed : ∀ id : Nat, id ∈ s.yielded.map Prod.fst → s.drafts[id]? = some none
  once : (s.yielded.map Prod.fst).Nodup
  ordered : (s.yielded.map Prod.fst).Sublist (finishedDrafts tasks)
  recorded : (s.yielded.map Prod.snd).Sublist s.desk.records

/-- A task that ends no draft. -/
theorem Ledger.quiet {tasks : List (Stamp × DraftTask T)} {s s' : DraftingDesk C T World}
    (h : s.Ledger tasks) {task : Stamp × DraftTask T} (hyielded : s'.yielded = s.yielded)
    (hclosed : ∀ id : Nat, s.drafts[id]? = some none → s'.drafts[id]? = some none)
    (hrecords : s.desk.records.Sublist s'.desk.records) : s'.Ledger (tasks ++ [task]) where
  closed id hid := hclosed id (h.closed id (hyielded ▸ hid))
  once := hyielded ▸ h.once
  ordered := by
    rw [hyielded, finishedDrafts, List.filterMap_append]
    exact h.ordered.trans (List.sublist_append_left _ _)
  recorded := by
    rw [hyielded]
    exact h.recorded.trans hrecords

/-- A draft that makes a record was open. -/
theorem exists_draft_of_recordOf {s : DraftingDesk C T World} {stamp : Stamp} {id : Nat}
    {record : Record} (h : s.recordOf stamp id = some record) :
    ∃ draft, s.drafts[id]? = some (some draft) := by
  obtain ⟨call, hcall, -⟩ := Option.bind_eq_some_iff.mp h
  obtain ⟨draft, hdraft, -⟩ := Option.bind_eq_some_iff.mp hcall
  exact ⟨draft, Option.join_eq_some_iff.mp hdraft⟩

theorem Ledger.finish {tasks : List (Stamp × DraftTask T)} {s : DraftingDesk C T World}
    (h : s.Ledger tasks) (stamp : Stamp) (id : Nat) :
    (s.finish outlets stamp id).Ledger (tasks ++ [(stamp, .finish id)]) := by
  have hkept : ∀ other : Nat, s.drafts[other]? = some none →
      (s.finish outlets stamp id).drafts[other]? = some none := by
    intro other hother
    exact (yields_perform_of_closed hother (stamp, .finish id)).1
  have hrecords : s.desk.records.Sublist (s.finish outlets stamp id).desk.records := by
    rw [records_finish]
    exact List.sublist_append_left _ _
  cases hrecord : s.recordOf stamp id with
  | none => exact h.quiet (by simp [finish_eq, hrecord]) hkept hrecords
  | some record =>
      have hyielded : (s.finish outlets stamp id).yielded = s.yielded ++ [(id, record)] := by
        simp [finish_eq, hrecord]
      obtain ⟨draft, hopen⟩ := exists_draft_of_recordOf hrecord
      have hlt := (List.getElem?_eq_some_iff.mp hopen).1
      constructor
      case closed =>
        intro other hother
        rw [hyielded, List.map_append, List.mem_append] at hother
        rcases hother with hother | hother
        · exact hkept other (h.closed other hother)
        · obtain rfl : other = id := by simpa using hother
          simp [finish_eq, hlt]
      case once =>
        rw [hyielded, List.map_append, List.nodup_append]
        refine ⟨h.once, by simp, ?_⟩
        -- The draft was open up to now, so it has made no record.
        rintro other hother id' hid rfl
        obtain rfl : other = id := by simpa using hid
        simp [h.closed other hother] at hopen
      case ordered =>
        rw [hyielded, List.map_append, finishedDrafts, List.filterMap_append]
        exact h.ordered.append (by simp [DraftTask.finish?])
      case recorded =>
        rw [hyielded, records_finish, hrecord, List.map_append]
        exact h.recorded.append (by simp)

theorem Ledger.perform {tasks : List (Stamp × DraftTask T)} {s : DraftingDesk C T World}
    (h : s.Ledger tasks) (task : Stamp × DraftTask T) :
    (s.perform outlets task).Ledger (tasks ++ [task]) := by
  have hkept : ∀ id : Nat, s.drafts[id]? = some none →
      (s.perform outlets task).drafts[id]? = some none := by
    intro id hid
    exact (yields_perform_of_closed hid task).1
  obtain ⟨stamp, task⟩ := task
  cases task with
  | plain task =>
      refine h.quiet rfl hkept ?_
      cases task with
      | log call =>
          change s.desk.records.Sublist (s.desk.log outlets stamp call).records
          rw [Desk.records_log]
          exact List.sublist_append_left _ _
      | set setting => exact List.Sublist.refl _
  | start level location => exact h.quiet rfl hkept (List.Sublist.refl _)
  | push id text => exact h.quiet rfl hkept (List.Sublist.refl _)
  | finish id => exact h.finish stamp id

theorem ledger_run (desk : Desk C T World) (tasks : List (Stamp × DraftTask T)) :
    (run outlets { desk } tasks).Ledger tasks := by
  induction tasks using List.reverseRecOn with
  | nil => exact ⟨by simp [run], by simp [run], by simp [run], by simp [run]⟩
  | append_singleton tasks task ih =>
      rw [run_grown]
      exact ih.perform task

theorem yields_of_open {tasks : List (Stamp × DraftTask T)} {s : DraftingDesk C T World}
    (h : s.Ledger tasks) {id : Nat} (hid : s.drafts[id]? ≠ some none) : s.yields id = [] := by
  refine List.filterMap_eq_nil_iff.mpr ?_
  intro entry hentry
  have hne : entry.1 ≠ id := by
    rintro rfl
    exact hid (h.closed entry.1 (List.mem_map_of_mem hentry))
  simp [hne]

end DraftingDesk

/-- A draft that was begun while it could not be logged gathers nothing. -/
theorem Draft.foldl_push (draft : Draft) (texts : List String) :
    texts.foldl Draft.push draft =
      if draft.active then { draft with text := draft.text ++ String.join texts } else draft := by
  induction texts generalizing draft with
  | nil => simp
  | cons text rest ih =>
      rw [List.foldl_cons, ih]
      cases hactive : draft.active <;>
        simp [Draft.push, hactive, String.join_cons, String.append_assoc]

namespace DraftingDesk

variable {outlets : Outlets C T World}

/-- The record of a draft that is ended after some texts were added to it. -/
theorem recordOf_of_pushed {s : DraftingDesk C T World} {logger : Logger C T} {level : Level}
    {location : Option Location} {id : Nat} {texts : List String}
    (h : s.drafts[id]? = some (some (texts.foldl Draft.push (.start logger level location))))
    (stamp : Stamp) :
    s.recordOf stamp id =
      if logger.minLevel ≤ level ∧ s.desk.logger.minLevel ≤ level ∧ String.join texts ≠ "" then
        some (s.desk.logger.number stamp ⟨level, String.join texts, location⟩).1
      else none := by
  rw [recordOf, callOf, h, Option.join_some, Option.bind_some, Draft.foldl_push]
  by_cases hstart : logger.minLevel ≤ level
  · by_cases htext : String.join texts = ""
    · simp [Draft.start, Draft.call?, Logger.enabled, hstart, htext]
    · by_cases hend : s.desk.logger.minLevel ≤ level <;>
        simp [Draft.start, Draft.call?, Logger.accept?, Logger.enabled, hstart, htext, hend]
  · simp [Draft.start, Draft.call?, Logger.enabled, hstart]

theorem yields_finish (s : DraftingDesk C T World) (stamp : Stamp) (id : Nat) :
    (s.finish outlets stamp id).yields id = s.yields id ++ (s.recordOf stamp id).toList := by
  rw [finish_eq, yields, List.filterMap_append]
  cases s.recordOf stamp id <;> simp [yields]

/-- A draft from its beginning to its end, among other tasks. -/
theorem yields_of_life (start : Desk C T World) {before middle tasks : List (Stamp × DraftTask T)}
    {stamp : Stamp} {level : Level} {location : Option Location} {id : Nat} {text : String}
    (htasks : tasks = before ++ (stamp, .start level location) :: middle)
    (hid : id = begunDrafts before) (hmiddle : ∀ task ∈ middle, task.2 ≠ .finish id)
    (htext : text = String.join (pushedTexts id middle)) (stamp' : Stamp)
    (after : List (Stamp × DraftTask T)) :
    (run outlets { desk := start } (tasks ++ (stamp', .finish id) :: after)).yields id =
      if thresholdAfter start.logger.minLevel before ≤ level ∧
          thresholdAfter start.logger.minLevel tasks ≤ level ∧ text ≠ "" then
        [((run outlets { desk := start } tasks).desk.logger.number stamp'
          ⟨level, text, location⟩).1]
      else [] := by
  have hplace : id = (run outlets { desk := start } before).drafts.length := by
    rw [length_drafts_run, hid, List.length_nil, Nat.zero_add]
  have hstart : ((run outlets { desk := start } before).perform outlets
      (stamp, .start level location)).drafts[id]? = some (some
        (.start (run outlets { desk := start } before).desk.logger level location)) := by
    simp [perform, hplace]
  have hopen : (run outlets { desk := start } tasks).drafts[id]? = some (some
      ((pushedTexts id middle).foldl Draft.push
        (.start (run outlets { desk := start } before).desk.logger level location))) := by
    rw [htasks, List.append_cons, run_append, run_grown]
    exact drafts_run_of_open hstart hmiddle
  have hclosed : ((run outlets { desk := start } tasks).finish outlets stamp' id).drafts[id]? =
      some none := by
    have hlt := (List.getElem?_eq_some_iff.mp hopen).1
    simp [finish_eq, hlt]
  have hrecord := recordOf_of_pushed hopen stamp'
  rw [minLevel_run, minLevel_run, ← htext] at hrecord
  rw [run_append]
  change (((run outlets { desk := start } tasks).finish outlets stamp' id).run outlets
    after).yields id = _
  rw [yields_run_of_closed hclosed, yields_finish, yields_of_open (ledger_run start tasks)
    (by simp [hopen]), hrecord, List.nil_append]
  split <;> rfl

/-- What becomes of drafts: how a program with drafts differs from one without. -/
structure Refined (outlets : Outlets C T World) (start : Desk C T World)
    (tasks : List (Stamp × DraftTask T)) (s : DraftingDesk C T World) : Prop where
  /-- The logger, the world, the records and the faults are those of plain calls, of which one
  stands for the end of each draft that could be logged at its beginning and got some text. -/
  desk : s.desk = start.run outlets (plainly start.logger.minLevel [] tasks)
  /-- A draft becomes one record, with all its text in order, when it could be logged both at its
  beginning and at its end and got some text; else it becomes none. -/
  yields : ∀ before stamp level location middle id stamp' after text,
    tasks = (before ++ (stamp, .start level location) :: middle) ++ (stamp', .finish id) :: after →
    id = begunDrafts before → (∀ task ∈ middle, task.2 ≠ .finish id) →
    text = String.join (pushedTexts id middle) →
      s.yields id =
        if thresholdAfter start.logger.minLevel before ≤ level ∧
            thresholdAfter start.logger.minLevel
              (before ++ (stamp, .start level location) :: middle) ≤ level ∧ text ≠ "" then
          [((run outlets { desk := start }
            (before ++ (stamp, .start level location) :: middle)).desk.logger.number stamp'
              ⟨level, text, location⟩).1]
        else []
  /-- No draft becomes two records. -/
  once : (s.yielded.map Prod.fst).Nodup
  /-- Records come in the order in which their drafts end, and a draft that has not ended becomes
  none. -/
  ordered : (s.yielded.map Prod.fst).Sublist (finishedDrafts tasks)
  /-- They are among the records of the logger, in the same order. -/
  recorded : (s.yielded.map Prod.snd).Sublist s.desk.records

/-- Drafts are nothing but a way to make plain calls. -/
theorem refined_run (outlets : Outlets C T World) (start : Desk C T World)
    (tasks : List (Stamp × DraftTask T)) :
    (run outlets { desk := start } tasks).Refined outlets start tasks where
  desk := desk_run rfl tasks
  yields before stamp level location middle id stamp' after text htasks hid hmiddle htext := by
    rw [htasks]
    exact yields_of_life start rfl hid hmiddle htext stamp' after
  once := (ledger_run start tasks).once
  ordered := (ledger_run start tasks).ordered
  recorded := (ledger_run start tasks).recorded

end DraftingDesk

namespace DraftsWitness

/-- Outlets that do nothing. -/
def silent : Outlets Unit Unit Unit where
  print _ _ := pure ()
  deliver _ _ := pure ()

def start : Desk Unit Unit Unit where
  logger := LoggerPlan.build { nodeName := "arm", minLevel := .warn } ()
  world := ()

/-- Two drafts, one of them below the threshold, which is lowered before they end. -/
def tasks : List (Stamp × DraftTask Unit) :=
  [.start .info none, .start .error none, .plain (.set (.minLevel .debug)), .push 0 "up",
    .push 1 "down", .finish 0, .finish 1].map (⟨0, 0⟩, ·)

example : (DraftingDesk.run silent { desk := start } tasks).yielded.map
    (fun entry => (entry.1, entry.2.message)) = [(1, "down")] := by
  decide +kernel

end DraftsWitness

end Logbook
