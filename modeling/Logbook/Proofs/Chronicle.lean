/-
Chronicles.  A history grows at its end, mark by mark, and what may be noted next depends on what
stands there already.  In a chronicle every mark fits the part of the history in front of it, so
what a mark promises about the past can be looked up wherever it stands.  Main statement:
`Chronicle.split`.
-/
import Mathlib.Data.List.Basic

namespace Logbook

variable {α β : Type}

theorem filterMap_grown (f : α → Option β) (list : List α) (last : α) :
    (list ++ [last]).filterMap f = list.filterMap f ++ (f last).toList := by
  rw [List.filterMap_append]
  cases h : f last <;> simp [h]

/-- A history that has grown by one mark splits at that mark or at an earlier one. -/
theorem split_grown {list before after : List α} {last x : α}
    (h : list ++ [last] = before ++ x :: after) :
    (before = list ∧ x = last) ∨ ∃ rest, list = before ++ x :: rest := by
  rcases List.append_eq_append_iff.mp h with ⟨between, hbefore, hlast⟩ | ⟨between, hlist, hx⟩
  · cases between with
    | nil => exact Or.inl ⟨by simpa using hbefore, by simpa using (List.cons.inj hlast).1.symm⟩
    | cons y rest => simp at hlast
  · cases between with
    | nil => exact Or.inl ⟨by simpa using hlist.symm, by simpa using (List.cons.inj hx).1⟩
    | cons y rest =>
        refine Or.inr ⟨rest, ?_⟩
        rw [hlist, (List.cons.inj hx).1]

/-- A history in which every mark fits what stands in front of it. -/
inductive Chronicle (Fits : List α → α → Prop) : List α → Prop where
  | empty : Chronicle Fits []
  | grown {history : List α} {mark : α} (before : Chronicle Fits history)
      (fits : Fits history mark) : Chronicle Fits (history ++ [mark])

namespace Chronicle

variable {Fits : List α → α → Prop} {history before after : List α} {mark : α}

/-- What stands in front of a mark is a chronicle too, and the mark fits it. -/
theorem split (h : Chronicle Fits history) (hsplit : history = before ++ mark :: after) :
    Chronicle Fits before ∧ Fits before mark := by
  induction h generalizing after with
  | empty => simp at hsplit
  | grown hbefore hfits ih =>
      rcases split_grown hsplit with ⟨rfl, rfl⟩ | ⟨rest, hrest⟩
      · exact ⟨hbefore, hfits⟩
      · exact ih hrest

theorem exists_split (h : Chronicle Fits history) (hmark : mark ∈ history) :
    ∃ before after, history = before ++ mark :: after ∧ Fits before mark := by
  obtain ⟨before, after, hsplit⟩ := List.append_of_mem hmark
  exact ⟨before, after, hsplit, (h.split hsplit).2⟩

end Chronicle

end Logbook
