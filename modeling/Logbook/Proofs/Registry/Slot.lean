/-
The slot of a registry that threads share, as its history tells it.  A change fills the slot or
empties it, and a fallback fills it.  Whoever gets a handle finds it there, and a fallback is made
only while there is none.  So between two changes all handles are the same, and between two
fallbacks the slot was emptied.  Main statements: `Chronicle.handed_eq` and
`Chronicle.exists_reset`.
-/
import Logbook.Proofs.Registry.Steps
import Mathlib.Data.List.Induction

namespace Logbook

variable {Name : Type}

namespace Registry

namespace Mark

/-- What a mark says has become of the slot. -/
def replay (slot : Option LoggerId) : Registry.Mark Name → Option LoggerId
  | .placed _ current => current
  | .made _ id => some id
  | _ => slot

/-- The logger that was installed. -/
def installed? : Registry.Mark Name → Option LoggerId
  | .placed _ current => current
  | _ => none

/-- The logger that a thread got. -/
def handed? : Registry.Mark Name → Option LoggerId
  | .found _ id => some id
  | .made _ id => some id
  | _ => none

/-- The logger that was made as a fallback. -/
def made? : Registry.Mark Name → Option LoggerId
  | .made _ id => some id
  | _ => none

/-- The mark of an installation or a reset. -/
def isChange : Registry.Mark Name → Bool
  | .placed _ _ => true
  | _ => false

/-- The mark of a reset. -/
def isReset : Registry.Mark Name → Bool
  | .placed _ none => true
  | _ => false

end Mark

/-- What a history has made of the slot. -/
def slotAfter (history : List (Registry.Mark Name)) : Option LoggerId :=
  history.foldl Mark.replay none

/-- The loggers that were installed. -/
def installed (history : List (Registry.Mark Name)) : List LoggerId :=
  history.filterMap Mark.installed?

/-- The loggers that threads got. -/
def handed (history : List (Registry.Mark Name)) : List LoggerId :=
  history.filterMap Mark.handed?

/-- The loggers that were made as fallbacks. -/
def fallbacks (history : List (Registry.Mark Name)) : List LoggerId :=
  history.filterMap Mark.made?

@[simp] theorem slotAfter_grown (history : List (Registry.Mark Name)) (mark : Registry.Mark Name) :
    slotAfter (history ++ [mark]) = mark.replay (slotAfter history) := by
  simp [slotAfter]

@[simp] theorem installed_grown (history : List (Registry.Mark Name)) (mark : Registry.Mark Name) :
    installed (history ++ [mark]) = installed history ++ mark.installed?.toList :=
  filterMap_grown _ _ _

@[simp] theorem handed_grown (history : List (Registry.Mark Name)) (mark : Registry.Mark Name) :
    handed (history ++ [mark]) = handed history ++ mark.handed?.toList :=
  filterMap_grown _ _ _

@[simp] theorem fallbacks_grown (history : List (Registry.Mark Name)) (mark : Registry.Mark Name) :
    fallbacks (history ++ [mark]) = fallbacks history ++ mark.made?.toList :=
  filterMap_grown _ _ _

/-- What a mark says about the history before it. -/
def Mark.Fits (history : List (Registry.Mark Name)) : Registry.Mark Name → Prop
  | .found _ id => slotAfter history = some id
  | .missed _ => slotAfter history = none
  | .made _ _ => slotAfter history = none
  | _ => True

theorem Acts.fits {session session' : Session} {ticket : Name × Nat} {before after : Stage}
    {mark : Registry.Mark Name} {history : List (Registry.Mark Name)}
    (h : Acts session ticket before mark after session')
    (hslot : session.registry.current = slotAfter history) : mark.Fits history := by
  cases h with
  | found id hcurrent => exact hslot.symm.trans hcurrent
  | missed hcurrent => exact hslot.symm.trans hcurrent
  | foundAgain id hcurrent => exact hslot.symm.trans hcurrent
  | made hcurrent => exact hslot.symm.trans hcurrent
  | _ => trivial

/-- A slot that is filled stays filled until a reset. -/
theorem slotAfter_ne_none {before between : List (Registry.Mark Name)}
    (hfilled : slotAfter before ≠ none) (hbetween : ∀ mark ∈ between, mark.isReset = false) :
    slotAfter (before ++ between) ≠ none := by
  induction between using List.reverseRecOn with
  | nil => simpa using hfilled
  | append_singleton between mark ih =>
      have hrest := ih fun earlier hearlier => hbetween earlier (List.mem_append_left _ hearlier)
      have hmark := hbetween mark (List.mem_append_right _ (List.mem_singleton_self mark))
      rw [← List.append_assoc, slotAfter_grown]
      cases mark with
      | placed ticket current =>
          cases current with
          | none => simp [Mark.isReset] at hmark
          | some id => simp [Mark.replay]
      | made ticket id => simp [Mark.replay]
      | _ => exact hrest

end Registry

namespace Chronicle

open Registry

variable {history before between after : List (Registry.Mark Name)}

/-- Who gets a handle while the registry is not changed leaves it in the slot. -/
theorem slotAfter_of_mem_handed (h : Chronicle Registry.Mark.Fits (before ++ between))
    (hbetween : ∀ mark ∈ between, mark.isChange = false) {id : LoggerId}
    (hid : id ∈ handed between) : slotAfter (before ++ between) = some id := by
  induction between using List.reverseRecOn with
  | nil => simp [handed] at hid
  | append_singleton between mark ih =>
      rw [← List.append_assoc] at h ⊢
      obtain ⟨hhistory, hfits⟩ := h.split rfl
      have hrest := ih hhistory fun earlier hearlier =>
        hbetween earlier (List.mem_append_left _ hearlier)
      have hmark := hbetween mark (List.mem_append_right _ (List.mem_singleton_self mark))
      rw [handed_grown, List.mem_append] at hid
      rw [slotAfter_grown]
      rcases hid with hid | hid
      · cases mark with
        | placed ticket current => simp [Registry.Mark.isChange] at hmark
        | made ticket other =>
            have hempty : slotAfter (before ++ between) = none := hfits
            rw [hrest hid] at hempty
            cases hempty
        | _ => exact hrest hid
      · cases mark with
        | found ticket other =>
            obtain rfl : id = other := by simpa [Registry.Mark.handed?] using hid
            exact hfits
        | made ticket other =>
            obtain rfl : id = other := by simpa [Registry.Mark.handed?] using hid
            rfl
        | _ => simp [Registry.Mark.handed?] at hid

/-- While the registry is not changed, all threads get the same handle. -/
theorem handed_eq (h : Chronicle Registry.Mark.Fits history)
    (hsplit : history = before ++ between ++ after)
    (hbetween : ∀ mark ∈ between, mark.isChange = false) {id other : LoggerId}
    (hid : id ∈ handed between) (hother : other ∈ handed between) : id = other := by
  have hhistory : Chronicle Registry.Mark.Fits (before ++ between) := by
    cases after with
    | nil =>
        rw [List.append_nil] at hsplit
        exact hsplit ▸ h
    | cons mark rest => exact (h.split hsplit).1
  have hslot := hhistory.slotAfter_of_mem_handed hbetween hid
  rw [hhistory.slotAfter_of_mem_handed hbetween hother] at hslot
  exact (Option.some.inj hslot).symm

/-- Between two fallbacks there is a reset. -/
theorem exists_reset (h : Chronicle Registry.Mark.Fits history) {ticket ticket' : Name × Nat}
    {id id' : LoggerId}
    (hsplit : history = before ++ .made ticket id :: between ++ .made ticket' id' :: after) :
    ∃ mark ∈ between, mark.isReset = true := by
  have hempty : slotAfter (before ++ .made ticket id :: between) = none := (h.split hsplit).2
  rw [List.append_cons] at hempty
  by_contra hnone
  refine slotAfter_ne_none ?_ ?_ hempty
  · simp [Registry.Mark.replay]
  · intro mark hmark
    by_contra hreset
    exact hnone ⟨mark, hmark, by simpa using hreset⟩

end Chronicle

end Logbook
