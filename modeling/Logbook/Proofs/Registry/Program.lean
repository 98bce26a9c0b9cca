/-
A program with a registry, over its whole life: it gives the registry one logger after the other,
empties it, takes handles, and does errands with the shared logger and through the handles it has.

Consoles and transports may fail, and what they do to the world that all of them share is left
open.  A console decides by its own state whether it fails, and a transport by the world.  What a
transport does with other loggers counts as errands of the program.

Each logger is then what its own errands would make of it alone.  Main statements:
`Program.desk_attendAll` and `Program.Sound.run`, and `Program.Follows`, by which the registry of a
session goes the way of that of a program.
-/
import Logbook.Registry
import Logbook.Session
import Logbook.Proofs.Desk.Mishaps

namespace Logbook

variable {C T P W : Type}

/-- The consoles and the transports that loggers may have. -/
structure Facilities (C T P W : Type) where
  standard : C
  /-- The state of a console before anything is written to it. -/
  place : C → P
  print : C → List (List UInt8) → Effect P Unit
  /-- What a line does to the world, apart from the state of its console. -/
  spill : C → P → List (List UInt8) → W → W
  deliver : T → Record → Effect W Unit

/-- What a logger has come to outside itself: the state of its console, the lines that it handed to
a console, and the records that it handed to a transport. -/
structure Heard (C T P : Type) where
  place : P
  lines : List (C × List (List UInt8)) := []
  calls : List (T × Record) := []

namespace Facilities

variable (facilities : Facilities C T P W)

/-- The outlets of a logger, which lead to what is its own and to the world. -/
def outlets : Outlets C T (Heard C T P × W) where
  print console pieces := do
    modify fun (heard, world) =>
      ({ heard with lines := heard.lines ++ [(console, pieces)] },
        facilities.spill console heard.place pieces world)
    (facilities.print console pieces).within (·.1.place)
      fun place world => ({ world.1 with place }, world.2)
  deliver transport record := do
    modify fun (heard, world) =>
      ({ heard with calls := heard.calls ++ [(transport, record)] }, world)
    (facilities.deliver transport record).within Prod.snd fun rest world => (world.1, rest)

/-- The outlets of a logger, as far as they lead to what is its own. -/
def ownOutlets : Outlets C T (Heard C T P) where
  print console pieces := do
    modify fun heard => { heard with lines := heard.lines ++ [(console, pieces)] }
    (facilities.print console pieces).within Heard.place fun place heard => { heard with place }
  deliver transport record :=
    modify fun heard => { heard with calls := heard.calls ++ [(transport, record)] }

theorem outcome_print (console : C) (pieces : List (List UInt8)) (heard : Heard C T P) (world : W) :
    (facilities.outlets.print console pieces).outcome (heard, world) =
      (((facilities.ownOutlets.print console pieces).outcome heard).1,
        ((facilities.ownOutlets.print console pieces).outcome heard).2,
        facilities.spill console heard.place pieces world) := by
  simp only [outlets, ownOutlets, Effect.outcome_bind_of_ok (Effect.outcome_modify _ _),
    Effect.outcome_within]

theorem outcome_deliver (transport : T) (record : Record) (heard : Heard C T P) (world : W) :
    ((facilities.outlets.deliver transport record).outcome (heard, world)).2.1 =
      ((facilities.ownOutlets.deliver transport record).outcome heard).2 := by
  simp only [outlets, ownOutlets, Effect.outcome_bind_of_ok (Effect.outcome_modify _ _),
    Effect.outcome_within, Effect.outcome_modify]

theorem mirrors_outlets : Mirrors Prod.fst facilities.outlets facilities.ownOutlets := by
  refine mirrors_of_outlets (fun console pieces (heard, world) => ?_)
    (fun transport record (heard, world) => ?_)
  · rw [facilities.outcome_print]
  · rw [facilities.outcome_deliver]

end Facilities

namespace GuardedDesk

variable {World Other : Type}

/-- A desk with another world. -/
def moved (s : GuardedDesk C T World) (world : Other) : GuardedDesk C T Other :=
  { s with inner := { s.inner with desk := { s.inner.desk with world } } }

/-- Two desks with the same logger and the same world, and the same replies and drafts. -/
structure Matches (s s' : GuardedDesk C T World) : Prop extends Alike s s' where
  world : s.inner.desk.world = s'.inner.desk.world

theorem Matches.refl (s : GuardedDesk C T World) : Matches s s :=
  ⟨⟨rfl, rfl, rfl, rfl⟩, rfl⟩

theorem Matches.symm {s s' : GuardedDesk C T World} (h : Matches s s') : Matches s' s :=
  ⟨h.toAlike.symm, h.world.symm⟩

theorem Matches.trans {s s' s'' : GuardedDesk C T World} (h : Matches s s')
    (h' : Matches s' s'') : Matches s s'' :=
  ⟨h.toAlike.trans h'.toAlike, h.world.trans h'.world⟩

/-- What a desk is like is found in the part of its world that is mapped. -/
theorem Reflects.matches {map : World → Other} {s : GuardedDesk C T World}
    {other : GuardedDesk C T Other} (h : Reflects map s other) :
    Matches (s.moved (map s.inner.desk.world)) other :=
  ⟨⟨h.desk.logger.symm, h.desk.records.symm, h.drafts.symm, h.replies.symm⟩,
    h.desk.world.symm⟩

theorem Matches.reflects {s s' : GuardedDesk C T World} (h : Matches s s') : Reflects id s s' :=
  ⟨⟨h.logger.symm, h.records.symm, h.world.symm⟩, h.drafts.symm, h.replies.symm⟩

theorem mirrors_id (outlets : Outlets C T World) : Mirrors id outlets outlets :=
  fun _ _ _ => rfl

theorem Matches.run {s s' : GuardedDesk C T World} (h : Matches s s')
    (outlets : Outlets C T World) (errands : List (Stamp × Errand T)) :
    Matches (s.run outlets errands) (s'.run outlets errands) :=
  (h.reflects.run (mirrors_id outlets) errands).matches

theorem Kept.of_alike {s : GuardedDesk C T World} {s' : GuardedDesk C T Other}
    {plan : LoggerPlan C T} {standard : C} {errands : List (Stamp × Errand T)} (h : Alike s s')
    (hkept : Kept plan standard errands s') : Kept plan standard errands s :=
  ⟨h.logger.trans hkept.logger, h.records.trans hkept.records⟩

end GuardedDesk

/-- The ways to give a logger to a registry. -/
inductive Renewal (C T : Type) where
  | named (nodeName : String)
  | withTransport (nodeName : String) (transport : T)
  | ofSettings (settings : Settings) (transport : Option T)
  /-- A logger that was built before, and did some errands before it was given. -/
  | install (plan : LoggerPlan C T) (errands : List (Stamp × Errand T))

namespace Renewal

/-- The plan for the logger. -/
def plan : Renewal C T → LoggerPlan C T
  | .named nodeName => { nodeName }
  | .withTransport nodeName transport => { nodeName, transport }
  | .ofSettings settings transport =>
      { (LoggerPlan.ofSettings settings : LoggerPlan C T) with transport }
  | .install plan _ => plan

/-- The errands that the logger did before it was given. -/
def errands : Renewal C T → List (Stamp × Errand T)
  | .install _ errands => errands
  | _ => []

end Renewal

/-- An errand with the shared logger, or through a handle that the program has. -/
inductive Use (T : Type) where
  | shared (errand : Stamp × Errand T)
  | handle (k : Nat) (errand : Stamp × Errand T)

namespace Use

def errand : Use T → Stamp × Errand T
  | .shared errand => errand
  | .handle _ errand => errand

def isShared : Use T → Bool
  | .shared _ => true
  | .handle _ _ => false

/-- The logger of a use, by the handles of the program and the logger that is shared. -/
def target (handles : List LoggerId) (current : Option LoggerId) : Use T → Option LoggerId
  | .shared _ => current
  | .handle k _ => handles[k]?

/-- The errand, if it is with the shared logger. -/
def shared? : Use T → Option (Stamp × Errand T)
  | .shared errand => some errand
  | .handle _ _ => none

/-- The errand, if it is through a handle of a certain logger. -/
def through? (handles : List LoggerId) (id : LoggerId) : Use T → Option (Stamp × Errand T)
  | .shared _ => none
  | .handle k errand => if handles[k]? = some id then some errand else none

/-- The errand and the logger that does it, if there is one. -/
def assigned? (handles : List LoggerId) (current : Option LoggerId) (use : Use T) :
    Option (LoggerId × Stamp × Errand T) :=
  (use.target handles current).map (·, use.errand)

end Use

/-- Those among some errands that are for a certain logger. -/
def errandsOf (id : LoggerId) (errands : List (LoggerId × Stamp × Errand T)) :
    List (Stamp × Errand T) :=
  errands.filterMap fun errand => if errand.1 = id then some errand.2 else none

@[simp] theorem errandsOf_cons_self (id : LoggerId) (errand : Stamp × Errand T)
    (rest : List (LoggerId × Stamp × Errand T)) :
    errandsOf id ((id, errand) :: rest) = errand :: errandsOf id rest := by
  simp [errandsOf]

@[simp] theorem errandsOf_cons_of_ne {id : LoggerId} {errand : LoggerId × Stamp × Errand T}
    (hne : errand.1 ≠ id) (rest : List (LoggerId × Stamp × Errand T)) :
    errandsOf id (errand :: rest) = errandsOf id rest := by
  simp [errandsOf, hne]

theorem errandsOf_self (id : LoggerId) (errands : List (Stamp × Errand T)) :
    errandsOf id (errands.map (id, ·)) = errands := by
  simp [errandsOf, List.filterMap_map]

/-- If no handle is one of the shared logger, its errands are those with the shared logger. -/
theorem errandsOf_shared {handles : List LoggerId} {id : LoggerId} (hid : id ∉ handles)
    (uses : List (Use T)) :
    errandsOf id (uses.filterMap (Use.assigned? handles (some id))) =
      uses.filterMap Use.shared? := by
  rw [errandsOf, List.filterMap_filterMap]
  refine List.filterMap_congr fun use _ => ?_
  cases use with
  | shared errand => simp [Use.assigned?, Use.target, Use.shared?, Use.errand]
  | handle k errand =>
      have hk : handles[k]? ≠ some id := fun h => hid (List.mem_of_getElem? h)
      cases hother : handles[k]? with
      | none => simp [Use.assigned?, Use.target, Use.shared?, hother]
      | some other =>
          rw [hother] at hk
          simpa [Use.assigned?, Use.target, Use.shared?, hother] using hk

/-- The errands of a logger that is not shared are those through its handles. -/
theorem errandsOf_handle {handles : List LoggerId} {current : Option LoggerId} {id : LoggerId}
    (hid : current ≠ some id) (uses : List (Use T)) :
    errandsOf id (uses.filterMap (Use.assigned? handles current)) =
      uses.filterMap (Use.through? handles id) := by
  rw [errandsOf, List.filterMap_filterMap]
  refine List.filterMap_congr fun use _ => ?_
  cases use with
  | shared errand =>
      cases current with
      | none => simp [Use.assigned?, Use.target, Use.through?]
      | some other => simpa [Use.assigned?, Use.target, Use.through?] using hid
  | handle k errand =>
      cases hother : handles[k]? with
      | none => simp [Use.assigned?, Use.target, Use.through?, hother]
      | some other =>
          simp only [Use.assigned?, Use.target, Use.through?, Use.errand, hother, Option.map_some,
            Option.bind_some, Option.some.injEq]

theorem shared_filter (uses : List (Use T)) :
    (uses.filter Use.isShared).filterMap Use.shared? = uses.filterMap Use.shared? := by
  rw [List.filterMap_filter]
  refine List.filterMap_congr fun use _ => ?_
  cases use <;> rfl

/-- Uses through handles are the same whatever is shared. -/
theorem assigned_filter (handles : List LoggerId) (current : Option LoggerId)
    (uses : List (Use T)) :
    (uses.filter (!·.isShared)).filterMap (Use.assigned? handles current) =
      (uses.filter (!·.isShared)).filterMap (Use.assigned? handles none) := by
  refine List.filterMap_congr fun use huse => ?_
  cases use with
  | shared errand => simp [Use.isShared] at huse
  | handle k errand => rfl

theorem through_filter (handles : List LoggerId) (id : LoggerId) (uses : List (Use T)) :
    (uses.filter (!·.isShared)).filterMap (Use.through? handles id) =
      uses.filterMap (Use.through? handles id) := by
  rw [List.filterMap_filter]
  refine List.filterMap_congr fun use _ => ?_
  cases use <;> rfl

/-- What a program does with its registry and with the loggers. -/
inductive Deed (C T : Type) where
  | renew (renewal : Renewal C T)
  | reset
  /-- Takes a handle of the shared logger. -/
  | take
  | use (use : Use T)

/-- A program, with the world, the registry, all loggers there ever were, and the handles that it
took. -/
structure Program (C T P W : Type) where
  world : W
  registry : Registry LoggerId := {}
  desks : List (GuardedDesk C T (Heard C T P)) := []
  handles : List LoggerId := []

/-- A logger after a plan, before its first errand. -/
def Facilities.opened (facilities : Facilities C T P W) (plan : LoggerPlan C T) :
    GuardedDesk C T (Heard C T P) :=
  .start plan facilities.standard
    { place := facilities.place (plan.build facilities.standard).console }

namespace Program

variable (facilities : Facilities C T P W)

/-- Makes a logger. -/
def add (plan : LoggerPlan C T) (program : Program C T P W) : Program C T P W :=
  { program with desks := program.desks ++ [facilities.opened plan] }

/-- Does an errand with a certain logger. -/
def attend (program : Program C T P W) (id : LoggerId) (errand : Stamp × Errand T) :
    Program C T P W :=
  match program.desks[id]? with
  | none => program
  | some desk =>
      let after := (desk.moved (desk.inner.desk.world, program.world)).perform
        facilities.outlets errand
      { program with
        world := after.inner.desk.world.2
        desks := program.desks.set id (after.moved after.inner.desk.world.1) }

/-- Does errands with the loggers that they are for. -/
def attendAll (program : Program C T P W) (errands : List (LoggerId × Stamp × Errand T)) :
    Program C T P W :=
  errands.foldl (fun program errand => program.attend facilities errand.1 errand.2) program

/-- Gives a new logger to the registry. -/
def renew (renewal : Renewal C T) (program : Program C T P W) : Program C T P W :=
  let id := program.desks.length
  let ready := (program.add facilities renewal.plan).attendAll facilities
    (renewal.errands.map (id, ·))
  { ready with registry := ready.registry.install id }

/-- The shared logger, which is a new one of the fallback's name where there was none. -/
def shared (program : Program C T P W) : LoggerId × Program C T P W :=
  match program.registry.current with
  | some id => (id, program)
  | none =>
      let id := program.desks.length
      (id, { program.add facilities { nodeName := fallbackName } with
        registry := program.registry.fallBack id })

def use (program : Program C T P W) : Use T → Program C T P W
  | .shared errand =>
      let (id, program) := program.shared facilities
      program.attend facilities id errand
  | .handle k errand =>
      match program.handles[k]? with
      | none => program
      | some id => program.attend facilities id errand

def step (program : Program C T P W) : Deed C T → Program C T P W
  | .renew renewal => program.renew facilities renewal
  | .reset => { program with registry := program.registry.reset }
  | .take =>
      let (id, program) := program.shared facilities
      { program with handles := program.handles ++ [id] }
  | .use use => program.use facilities use

def run (program : Program C T P W) (deeds : List (Deed C T)) : Program C T P W :=
  deeds.foldl (step facilities) program

/-- The logger that the registry shares. -/
def sharedDesk? (program : Program C T P W) : Option (GuardedDesk C T (Heard C T P)) :=
  program.registry.current.bind (program.desks[·]?)

section Attend

variable (program : Program C T P W) (id : LoggerId) (errand : Stamp × Errand T)

@[simp] theorem registry_attend :
    (program.attend facilities id errand).registry = program.registry := by
  unfold attend
  split <;> rfl

@[simp] theorem handles_attend :
    (program.attend facilities id errand).handles = program.handles := by
  unfold attend
  split <;> rfl

@[simp] theorem length_attend :
    (program.attend facilities id errand).desks.length = program.desks.length := by
  unfold attend
  split
  · rfl
  · exact List.length_set

variable {id}

/-- An errand changes no logger but the one it is for. -/
theorem desk_attend_of_ne {other : LoggerId} (hne : other ≠ id) :
    (program.attend facilities id errand).desks[other]? = program.desks[other]? := by
  unfold attend
  split
  · rfl
  · exact List.getElem?_set_ne (Ne.symm hne)

variable {program}

/-- An errand makes of a logger what it would make of it without the world. -/
theorem desk_attend {desk : GuardedDesk C T (Heard C T P)}
    (hdesk : program.desks[id]? = some desk) :
    ∃ after, (program.attend facilities id errand).desks[id]? = some after ∧
      after.Matches (desk.perform facilities.ownOutlets errand) := by
  have hlt : id < program.desks.length := (List.getElem?_eq_some_iff.mp hdesk).1
  have hreflects : GuardedDesk.Reflects Prod.fst
      (desk.moved (desk.inner.desk.world, program.world)) desk :=
    ⟨⟨rfl, rfl, rfl⟩, rfl, rfl⟩
  refine ⟨_, ?_, (hreflects.perform facilities.mirrors_outlets errand).matches⟩
  simp only [attend, hdesk, List.getElem?_set_self hlt]

end Attend

section AttendAll

variable (program : Program C T P W) (errands : List (LoggerId × Stamp × Errand T))

@[simp] theorem registry_attendAll :
    (program.attendAll facilities errands).registry = program.registry := by
  induction errands generalizing program with
  | nil => rfl
  | cons errand rest ih => exact (ih _).trans (registry_attend _ _ _ _)

@[simp] theorem handles_attendAll :
    (program.attendAll facilities errands).handles = program.handles := by
  induction errands generalizing program with
  | nil => rfl
  | cons errand rest ih => exact (ih _).trans (handles_attend _ _ _ _)

@[simp] theorem length_attendAll :
    (program.attendAll facilities errands).desks.length = program.desks.length := by
  induction errands generalizing program with
  | nil => rfl
  | cons errand rest ih => exact (ih _).trans (length_attend _ _ _ _)

/-- Errands of others leave a logger as it is. -/
theorem desk_attendAll_of_ne {id : LoggerId} (hne : ∀ errand ∈ errands, errand.1 ≠ id) :
    (program.attendAll facilities errands).desks[id]? = program.desks[id]? := by
  induction errands generalizing program with
  | nil => rfl
  | cons errand rest ih =>
      obtain ⟨hfirst, hrest⟩ := List.forall_mem_cons.mp hne
      exact (ih _ hrest).trans (desk_attend_of_ne _ _ _ (Ne.symm hfirst))

variable {program}

/-- Whatever the others do, a logger is what its own errands would make of it alone. -/
theorem desk_attendAll {id : LoggerId} {desk : GuardedDesk C T (Heard C T P)}
    (hdesk : program.desks[id]? = some desk) :
    ∃ after, (program.attendAll facilities errands).desks[id]? = some after ∧
      after.Matches (desk.run facilities.ownOutlets (errandsOf id errands)) := by
  induction errands generalizing program desk with
  | nil => exact ⟨desk, hdesk, .refl desk⟩
  | cons errand rest ih =>
      obtain ⟨other, errand⟩ := errand
      by_cases hother : other = id
      · subst hother
        obtain ⟨next, hnext, hmatches⟩ := desk_attend facilities errand hdesk
        obtain ⟨after, hafter, hrest⟩ := ih hnext
        refine ⟨after, hafter, hrest.trans ?_⟩
        rw [errandsOf_cons_self]
        exact hmatches.run facilities.ownOutlets _
      · have hsame := desk_attend_of_ne facilities program errand (Ne.symm hother)
        obtain ⟨after, hafter, hrest⟩ := ih (hsame.trans hdesk)
        refine ⟨after, hafter, ?_⟩
        rw [errandsOf_cons_of_ne hother]
        exact hrest

end AttendAll

section Renew

variable (program : Program C T P W) (renewal : Renewal C T)

@[simp] theorem registry_renew :
    (program.renew facilities renewal).registry = ⟨some program.desks.length, true⟩ := rfl

@[simp] theorem handles_renew :
    (program.renew facilities renewal).handles = program.handles :=
  handles_attendAll _ _ _

@[simp] theorem length_renew :
    (program.renew facilities renewal).desks.length = program.desks.length + 1 :=
  (length_attendAll _ _ _).trans List.length_append

/-- The loggers that there were stay as they are. -/
theorem desk_renew_of_lt {id : LoggerId} (hid : id < program.desks.length) :
    (program.renew facilities renewal).desks[id]? = program.desks[id]? := by
  refine (desk_attendAll_of_ne _ _ _ fun errand herrand => ?_).trans
    (List.getElem?_append_left hid)
  obtain ⟨-, -, rfl⟩ := List.mem_map.mp herrand
  exact (Nat.ne_of_lt hid).symm

/-- The new logger knows nothing but its plan and its own errands. -/
theorem desk_renew :
    ∃ desk, (program.renew facilities renewal).desks[program.desks.length]? = some desk ∧
      desk.Matches
        ((facilities.opened renewal.plan).run facilities.ownOutlets renewal.errands) := by
  have hadded : (program.add facilities renewal.plan).desks[program.desks.length]? =
      some (facilities.opened renewal.plan) := List.getElem?_concat_length
  have hdesk := desk_attendAll facilities (renewal.errands.map (program.desks.length, ·)) hadded
  rwa [errandsOf_self] at hdesk

end Renew

section Uses

variable (program : Program C T P W)

/-- As long as no fallback has to be made, a use is an errand for the logger it is meant for. -/
theorem use_eq (use : Use T)
    (huse : use.isShared = true → program.registry.current.isSome = true) :
    program.use facilities use =
      program.attendAll facilities
        (use.assigned? program.handles program.registry.current).toList := by
  cases use with
  | shared errand =>
      obtain ⟨id, hid⟩ := Option.isSome_iff_exists.mp (huse rfl)
      simp [Program.use, shared, Use.assigned?, Use.target, Use.errand, hid, attendAll]
  | handle k errand =>
      cases hid : program.handles[k]? <;>
        simp [Program.use, Use.assigned?, Use.target, Use.errand, hid, attendAll]

theorem run_uses (uses : List (Use T))
    (huses : ∀ use ∈ uses, use.isShared = true → program.registry.current.isSome = true) :
    program.run facilities (uses.map .use) =
      program.attendAll facilities
        (uses.filterMap (Use.assigned? program.handles program.registry.current)) := by
  induction uses generalizing program with
  | nil => rfl
  | cons use rest ih =>
      obtain ⟨hfirst, hrest⟩ := List.forall_mem_cons.mp huses
      have huse := use_eq facilities program use hfirst
      have hregistry : (program.use facilities use).registry = program.registry := by
        rw [huse, registry_attendAll]
      have hhandles : (program.use facilities use).handles = program.handles := by
        rw [huse, handles_attendAll]
      change (program.use facilities use).run facilities (rest.map .use) = _
      rw [ih _ (by rwa [hregistry]), hregistry, hhandles, huse, List.filterMap_cons]
      cases use.assigned? program.handles program.registry.current <;> rfl

/-- An errand through a handle changes no logger but the one of the handle. -/
theorem desk_step_handle {k : Nat} {id : LoggerId} (hid : program.handles[k]? ≠ some id)
    (errand : Stamp × Errand T) :
    (program.step facilities (.use (.handle k errand))).desks[id]? = program.desks[id]? := by
  simp only [step, use]
  split
  · rfl
  · next other hother =>
      refine desk_attend_of_ne facilities program errand fun heq => hid ?_
      rw [hother, heq]

end Uses

/-- Handles and the registry only know loggers that there are. -/
structure Sound (program : Program C T P W) : Prop where
  current : ∀ id ∈ program.registry.current, id < program.desks.length
  handles : ∀ id ∈ program.handles, id < program.desks.length

section Sound

variable {program : Program C T P W}

theorem Sound.attend (h : program.Sound) (id : LoggerId) (errand : Stamp × Errand T) :
    (program.attend facilities id errand).Sound :=
  ⟨by simpa using h.current, by simpa using h.handles⟩

/-- A fallback takes the next number. -/
theorem Sound.shared (h : program.Sound) :
    (program.shared facilities).2.Sound ∧
      (program.shared facilities).1 < (program.shared facilities).2.desks.length := by
  unfold Program.shared
  split
  · next id hid => exact ⟨h, h.current id hid⟩
  · refine ⟨⟨?_, fun id hid => ?_⟩, ?_⟩
    · simp [Registry.fallBack, add]
    · simpa [add] using Nat.lt_add_one_of_lt (h.handles id hid)
    · simp [add]

theorem Sound.step (h : program.Sound) (deed : Deed C T) :
    (program.step facilities deed).Sound := by
  cases deed with
  | renew renewal =>
      refine ⟨?_, fun id hid => ?_⟩
      · simp [Program.step]
      · simp only [Program.step, handles_renew] at hid
        simpa [Program.step] using Nat.lt_add_one_of_lt (h.handles id hid)
  | reset => exact ⟨by simp [Program.step, Registry.reset], h.handles⟩
  | take =>
      obtain ⟨hsound, hlt⟩ := h.shared facilities
      refine ⟨hsound.current, ?_⟩
      simp only [Program.step, List.mem_append, List.mem_singleton]
      rintro id (hid | rfl)
      · exact hsound.handles id hid
      · exact hlt
  | use use =>
      cases use with
      | shared errand => exact (h.shared facilities).1.attend facilities _ errand
      | handle k errand =>
          simp only [Program.step, Program.use]
          split
          · exact h
          · exact h.attend facilities _ errand

/-- At any time a program knows only loggers that there are. -/
theorem Sound.run (h : program.Sound) (deeds : List (Deed C T)) :
    (program.run facilities deeds).Sound := by
  induction deeds generalizing program with
  | nil => exact h
  | cons deed rest ih => exact ih (h.step facilities deed)

theorem sound_start (world : W) : ({ world } : Program C T P W).Sound :=
  ⟨by simp, by simp⟩

end Sound

/-- A session has the registry of a program and its loggers, as they are by now. -/
structure Follows (program : Program Console (Transport Outlet) P W) (session : Session) :
    Prop where
  registry : session.registry = program.registry
  loggers : session.loggers = program.desks.map (·.inner.desk.logger)

section Follows

variable {facilities : Facilities Console (Transport Outlet) P W}
  {program : Program Console (Transport Outlet) P W} {session : Session}

theorem Follows.length_loggers (h : program.Follows session) :
    session.loggers.length = program.desks.length := by
  rw [h.loggers, List.length_map]

theorem Follows.add (h : program.Follows session) (hstandard : facilities.standard = .standardError)
    (plan : SessionPlan) :
    (program.add facilities plan).Follows (session.addLogger plan).2 := by
  refine ⟨h.registry, ?_⟩
  simp [Session.addLogger, Program.add, Facilities.opened, GuardedDesk.start, h.loggers, hstandard]

/-- A session deals with its registry as a program does. -/
theorem Follows.renew (h : program.Follows session)
    (hstandard : facilities.standard = .standardError) (plan : SessionPlan) :
    (program.renew facilities (.install plan [])).Follows (session.install plan) := by
  refine ⟨?_, (h.add hstandard plan).loggers⟩
  simp [Session.install, Session.addLogger, Registry.install, h.length_loggers]

theorem Follows.shared (h : program.Follows session)
    (hstandard : facilities.standard = .standardError) :
    session.shared.1 = (program.shared facilities).1 ∧
      (program.shared facilities).2.Follows session.shared.2 := by
  cases hcurrent : program.registry.current with
  | some id =>
    simp only [Session.shared, Program.shared, h.registry, hcurrent]
    exact ⟨trivial, h⟩
  | none =>
    simp only [Session.shared, Program.shared, h.registry, hcurrent]
    refine ⟨h.length_loggers, ?_, (h.add hstandard _).loggers⟩
    simp [Session.addLogger, h.registry, h.length_loggers]

theorem Follows.reset (h : program.Follows session) :
    (program.step facilities .reset).Follows
      { session with registry := session.registry.reset } :=
  ⟨by rw [h.registry]; rfl, h.loggers⟩

end Follows

end Program

end Logbook
