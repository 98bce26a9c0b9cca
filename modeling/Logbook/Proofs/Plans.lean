/-
Plans that are made by choices.  A choice sets one thing and leaves the others as they are, so of
the choices about one thing the last counts, wherever it stands among those about other things.
Settings are choices too, the first ones of a plan that begins with them.  Whether the transport
of a new logger is switched on is decided by the last choice about that, made before or behind the
choice of the transport; without one it is switched on just when a transport was chosen.  A logger
at work is different, where to set a transport switches it on.  Main statement:
`built_by_last_choices`.
-/
import Logbook.Proofs.Desk.Drafts

namespace Logbook

namespace LoggerPlan

/-- The things that choices are about. -/
inductive Matter where
  | minLevel
  | localOutput
  | remoteOutput
  | transport
  | console
  | palette
  | sequenceStart
  deriving DecidableEq, Repr

namespace Matter

/-- What a plan has for a matter.  Three of them may be left open. -/
def Value (C T : Type) : Matter → Type
  | .minLevel => Level
  | .localOutput => Bool
  | .remoteOutput => Option Bool
  | .transport => Option T
  | .console => Option C
  | .palette => Palette
  | .sequenceStart => UInt32

variable {C T : Type}

/-- What a plan has for a matter. -/
def get : (matter : Matter) → LoggerPlan C T → matter.Value C T
  | .minLevel, plan => plan.minLevel
  | .localOutput, plan => plan.localOutput
  | .remoteOutput, plan => plan.remoteOutput
  | .transport, plan => plan.transport
  | .console, plan => plan.console
  | .palette, plan => plan.palette
  | .sequenceStart, plan => plan.sequenceStart

/-- What a choice sets for a matter, if it is about that. -/
def set? : (matter : Matter) → Choice C T → Option (matter.Value C T)
  | .minLevel, .minLevel level => some level
  | .localOutput, .localOutput on => some on
  | .remoteOutput, .remoteOutput on => some (some on)
  | .transport, .transport target => some (some target)
  | .console, .console target => some (some target)
  | .palette, .palette colors => some colors
  | .sequenceStart, .sequenceStart first => some first
  | _, _ => none

/-- What is set last for a matter, if anything is. -/
def last? (matter : Matter) (choices : List (Choice C T)) : Option (matter.Value C T) :=
  (choices.filterMap matter.set?).getLast?

theorem last?_eq_none_iff {matter : Matter} {choices : List (Choice C T)} :
    matter.last? choices = none ↔ ∀ choice ∈ choices, matter.set? choice = none := by
  rw [last?, List.getLast?_eq_none_iff, List.filterMap_eq_nil_iff]

theorem last?_of_split {matter : Matter} {before after : List (Choice C T)} {choice : Choice C T}
    {value : matter.Value C T} (hset : matter.set? choice = some value)
    (hafter : ∀ other ∈ after, matter.set? other = none) :
    matter.last? (before ++ choice :: after) = some value := by
  rw [last?, List.filterMap_append, List.filterMap_cons_some hset,
    List.filterMap_eq_nil_iff.mpr hafter]
  simp

theorem exists_of_last? {matter : Matter} {choices : List (Choice C T)}
    {value : matter.Value C T} (h : matter.last? choices = some value) :
    ∃ choice ∈ choices, matter.set? choice = some value :=
  List.mem_filterMap.mp (List.mem_of_getLast? h)

/-- Only choices about the switch of the transport set it. -/
theorem set?_remoteOutput {choices : List (Choice C T)} (h : ∀ on, .remoteOutput on ∉ choices) :
    ∀ choice ∈ choices, set? .remoteOutput choice = none := by
  intro choice hchoice
  cases choice with
  | remoteOutput on => exact absurd hchoice (h on)
  | _ => rfl

/-- Of the things that are chosen there is a transport, if one was chosen at all. -/
theorem isSome_last?_transport (choices : List (Choice C T)) :
    ((last? .transport choices).getD none).isSome ↔ ∃ target, .transport target ∈ choices := by
  cases hlast : last? .transport choices with
  | none =>
      have hnone := last?_eq_none_iff.mp hlast
      have habsent : ¬∃ target, .transport target ∈ choices := by
        rintro ⟨target, hmem⟩
        exact absurd (hnone _ hmem) (by simp [set?])
      exact iff_of_false Bool.false_ne_true habsent
  | some value =>
      obtain ⟨choice, hmem, hset⟩ := exists_of_last? hlast
      cases choice with
      | transport target =>
          obtain rfl := Option.some.inj hset
          exact iff_of_true rfl ⟨target, hmem⟩
      | _ => simp [set?] at hset

end Matter

variable {C T : Type}

/-- A plan is a name and what it has for each matter. -/
theorem ext_get {plan plan' : LoggerPlan C T} (hname : plan.nodeName = plan'.nodeName)
    (h : ∀ matter : Matter, matter.get plan = matter.get plan') : plan = plan' := by
  cases plan
  cases plan'
  obtain rfl := hname
  obtain rfl := h .minLevel
  obtain rfl := h .localOutput
  obtain rfl := h .remoteOutput
  obtain rfl := h .transport
  obtain rfl := h .console
  obtain rfl := h .palette
  obtain rfl := h .sequenceStart
  rfl

/-- A choice sets what it is about and leaves the rest. -/
theorem get_choose (matter : Matter) (plan : LoggerPlan C T) (choice : Choice C T) :
    matter.get (plan.choose choice) = (matter.set? choice).getD (matter.get plan) := by
  cases choice <;> cases matter <;> rfl

theorem chooseAll_append (plan : LoggerPlan C T) (before after : List (Choice C T)) :
    plan.chooseAll (before ++ after) = (plan.chooseAll before).chooseAll after :=
  List.foldl_append

theorem nodeName_chooseAll (plan : LoggerPlan C T) (choices : List (Choice C T)) :
    (plan.chooseAll choices).nodeName = plan.nodeName := by
  induction choices generalizing plan with
  | nil => rfl
  | cons choice rest ih =>
      have hchoice : (plan.choose choice).nodeName = plan.nodeName := by
        cases choice <;> rfl
      exact (ih _).trans hchoice

/-- For each matter the last choice about it counts. -/
theorem get_chooseAll (matter : Matter) (plan : LoggerPlan C T) (choices : List (Choice C T)) :
    matter.get (plan.chooseAll choices) = (matter.last? choices).getD (matter.get plan) := by
  induction choices using List.reverseRecOn with
  | nil => rfl
  | append_singleton choices choice ih =>
      have hlast : (plan.chooseAll (choices ++ [choice])) = (plan.chooseAll choices).choose choice :=
        plan.chooseAll_append choices [choice]
      rw [hlast, get_choose, ih]
      exact (lastOf_grown matter.set? (matter.get plan) choices choice).symm

/-- Where a plan begins: with a name alone, or with settings. -/
inductive Start where
  | name (nodeName : String)
  | settings (given : Settings)

namespace Start

def nodeName : Start → String
  | .name nodeName => nodeName
  | .settings given => given.logger.nodeName

/-- The plan before any choice is made about it. -/
def plan : Start → LoggerPlan C T
  | .name nodeName => { nodeName }
  | .settings given => .ofSettings given

/-- The choices that are made already. -/
def choices : Start → List (Choice C T)
  | .name _ => []
  | .settings given =>
      [.minLevel given.logger.minLevel, .localOutput given.logger.localOutput,
        .sequenceStart given.logger.sequenceStart, .palette given.palette]

/-- Settings choose like anybody else. -/
theorem plan_eq (start : Start) :
    (start.plan : LoggerPlan C T) = chooseAll { nodeName := start.nodeName } start.choices := by
  cases start <;> rfl

theorem chooseAll_plan (start : Start) (choices : List (Choice C T)) :
    start.plan.chooseAll choices =
      chooseAll { nodeName := start.nodeName } (start.choices ++ choices) := by
  rw [plan_eq, chooseAll_append]

end Start

/-- Two ways to choose agree in the last choice about each matter. -/
def SameLast (choices choices' : List (Choice C T)) : Prop :=
  ∀ matter : Matter, matter.last? choices = matter.last? choices'

theorem chooseAll_congr (plan : LoggerPlan C T) {choices choices' : List (Choice C T)}
    (h : SameLast choices choices') : plan.chooseAll choices = plan.chooseAll choices' := by
  apply ext_get
  · rw [nodeName_chooseAll, nodeName_chooseAll]
  · intro matter
    rw [get_chooseAll, get_chooseAll, h matter]

/-- The loggers of two plans are the same, and nothing that is done with them tells them apart. -/
structure Interchangeable (plan plan' : LoggerPlan C T) : Prop where
  state : ∀ standard, plan.build standard = plan'.build standard
  /-- A program alone with its logger and with drafts for it has the same from both. -/
  alone : ∀ (World : Type) (outlets : Outlets C T World) (standard : C) (world : World)
    (tasks : List (Stamp × DraftTask T)),
    DraftingDesk.run outlets { desk := { logger := plan.build standard, world } } tasks =
      DraftingDesk.run outlets { desk := { logger := plan'.build standard, world } } tasks
  /-- So have threads that share it, with any schedule. -/
  shared : ∀ (Name World : Type) [DecidableEq Name] (outlets : Outlets C T World) (standard : C)
    (world : World) (programs : Name → List (Task T)) (schedule : List (Move Name World)),
    (Shared.begin programs (plan.build standard) world).run outlets schedule =
      (Shared.begin programs (plan'.build standard) world).run outlets schedule

/-- How it is decided whether the transport of a new logger is switched on. -/
structure Switched (plan : LoggerPlan C T) (choices : List (Choice C T)) : Prop where
  /-- By the last choice about that, wherever the transport is chosen. -/
  chosen : ∀ before on after, choices = before ++ .remoteOutput on :: after →
    (∀ other, .remoteOutput other ∉ after) →
    ∀ standard, (plan.build standard).remoteOutput = on
  /-- Where there is no such choice, by whether a transport was chosen. -/
  unchosen : (∀ on, .remoteOutput on ∉ choices) →
    ∀ standard, (plan.build standard).remoteOutput = true ↔ ∃ target, .transport target ∈ choices

/-- The switch of a new transport, from the last choices. -/
theorem remoteOutput_build (start : Start) (choices : List (Choice C T)) (standard : C) :
    ((start.plan.chooseAll choices).build standard).remoteOutput =
      ((Matter.last? .remoteOutput choices).getD none).getD
        ((Matter.last? .transport choices).getD none).isSome := by
  have hremote := get_chooseAll .remoteOutput start.plan choices
  have htransport := get_chooseAll .transport start.plan choices
  have hopen : Matter.get .remoteOutput (start.plan : LoggerPlan C T) = none ∧
      Matter.get .transport (start.plan : LoggerPlan C T) = none := by
    cases start <;> exact ⟨rfl, rfl⟩
  rw [hopen.1] at hremote
  rw [hopen.2] at htransport
  rw [← hremote, ← htransport]
  rfl

theorem switched_chooseAll (start : Start) (choices : List (Choice C T)) :
    Switched (start.plan.chooseAll choices) choices := by
  constructor
  case chosen =>
    rintro before on after rfl hafter standard
    have hset : Matter.set? .remoteOutput (.remoteOutput on : Choice C T) = some (some on) := rfl
    rw [remoteOutput_build, Matter.last?_of_split hset (Matter.set?_remoteOutput hafter)]
    rfl
  case unchosen =>
    intro h standard
    rw [remoteOutput_build, Matter.last?_eq_none_iff.mpr (Matter.set?_remoteOutput h)]
    exact Matter.isSome_last?_transport choices

/-- A logger is what the last choices make it. -/
theorem built_by_last_choices {start start' : Start} {choices choices' : List (Choice C T)}
    (hname : start.nodeName = start'.nodeName)
    (hlast : SameLast (start.choices ++ choices) (start'.choices ++ choices')) :
    Interchangeable (start.plan.chooseAll choices) (start'.plan.chooseAll choices') ∧
      Switched (start.plan.chooseAll choices) choices := by
  have hplan : (start.plan.chooseAll choices : LoggerPlan C T) = start'.plan.chooseAll choices' := by
    rw [start.chooseAll_plan, start'.chooseAll_plan, hname, chooseAll_congr _ hlast]
  refine ⟨?_, switched_chooseAll start choices⟩
  rw [hplan]
  exact ⟨fun _ => rfl, fun _ _ _ _ _ => rfl, fun _ _ _ _ _ _ _ _ => rfl⟩

end LoggerPlan

namespace PlansWitness

open LoggerPlan

/-- Settings of a plain console and a threshold that is chosen anew. -/
def given : Settings where
  logger := { nodeName := "arm", minLevel := .error }
  console := { color := false }

/-- All choices are made, the switch before the transport. -/
def fromName : List (Choice Unit Bool) :=
  [.palette .plain, .remoteOutput false, .transport true, .minLevel .info, .sequenceStart 0,
    .localOutput true]

/-- The same after the settings, with a switch and a transport that do not count. -/
def fromSettings : List (Choice Unit Bool) :=
  [.transport false, .remoteOutput true, .minLevel .info, .transport true, .remoteOutput false]

theorem built_by_last_choices_arm :
    (Start.nodeName (.name "arm") = Start.nodeName (.settings given) ∧
      SameLast (Start.choices (.name "arm") ++ fromName)
        (Start.choices (.settings given) ++ fromSettings)) ∧
    ∀ standard, (chooseAll { nodeName := "arm" } fromName).build standard =
      (chooseAll (.ofSettings given) fromSettings).build standard := by
  have hname : Start.nodeName (.name "arm") = Start.nodeName (.settings given) := rfl
  have hlast : SameLast (Start.choices (.name "arm") ++ fromName)
      (Start.choices (.settings given) ++ fromSettings) := by
    intro matter
    cases matter <;> rfl
  exact ⟨⟨hname, hlast⟩, (built_by_last_choices hname hlast).1.state⟩

end PlansWitness

end Logbook
