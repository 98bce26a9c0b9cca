/-
Threads that share a gate to which a visit is one turn.  Nothing can come in between the parts of
such a visit, so the visits of all threads stand in one order, and the answers are those of somebody
who makes them alone in that order.  Main statements: `Turnpike.kept_run` and `Turnpike.solo`.
-/
import Logbook.Proofs.Chronicle
import Mathlib.Logic.Function.Basic

namespace Logbook

/-- A visit to a gate: whose it was, what it was made with, and whether the gate opened. -/
structure Passage (Name Argument : Type) where
  thread : Name
  argument : Argument
  fired : Bool

/-- A gate that threads share, their visits to come, and the visits so far. -/
structure Turnpike (Name Gate Argument : Type) where
  gate : Gate
  todo : Name → List Argument
  history : List (Passage Name Argument)

namespace Turnpike

variable {Name Gate Argument : Type} (visit : Gate → Argument → Bool × Gate)

/-- Threads with their visits to come, at a gate that nobody has visited. -/
def begin (start : Gate) (programs : Name → List Argument) : Turnpike Name Gate Argument where
  gate := start
  todo := programs
  history := []

/-- The gate behind visits that were made one after the other. -/
def gateBehind (start : Gate) (history : List (Passage Name Argument)) : Gate :=
  history.foldl (fun gate passage => (visit gate passage.argument).2) start

/-- The answer to a visit is that of the gate behind the visits before it. -/
def Answered (start : Gate) (before : List (Passage Name Argument))
    (passage : Passage Name Argument) : Prop :=
  passage.fired = (visit (gateBehind visit start before) passage.argument).1

theorem gateBehind_grown (start : Gate) (history : List (Passage Name Argument))
    (passage : Passage Name Argument) :
    gateBehind visit start (history ++ [passage]) =
      (visit (gateBehind visit start history) passage.argument).2 := by
  rw [gateBehind, List.foldl_append]
  rfl

variable [DecidableEq Name]

/-- One turn of a thread. -/
def turn (s : Turnpike Name Gate Argument) (name : Name) : Turnpike Name Gate Argument :=
  match s.todo name with
  | [] => s
  | argument :: rest =>
      { gate := (visit s.gate argument).2
        todo := Function.update s.todo name rest
        history := s.history ++ [⟨name, argument, (visit s.gate argument).1⟩] }

def run (s : Turnpike Name Gate Argument) (schedule : List Name) : Turnpike Name Gate Argument :=
  schedule.foldl (turn visit) s

/-- Alone a thread makes its next visit as it would at a gate of its own. -/
def Solo (s : Turnpike Name Gate Argument) : Prop :=
  ∀ name argument rest, s.todo name = argument :: rest →
    (s.run visit [name]).gate = (visit s.gate argument).2 ∧
      (s.run visit [name]).todo = Function.update s.todo name rest ∧
      (s.run visit [name]).history =
        s.history ++ [⟨name, argument, (visit s.gate argument).1⟩]

/-- What every turn keeps. -/
structure Kept (start : Gate) (programs : Name → List Argument)
    (s : Turnpike Name Gate Argument) : Prop where
  gate : s.gate = gateBehind visit start s.history
  answers : Chronicle (Answered visit start) s.history
  /-- Every thread makes its visits in their order. -/
  todo : ∀ name, (s.history.filter (·.thread = name)).map Passage.argument ++ s.todo name =
    programs name

variable {visit} {start : Gate} {programs : Name → List Argument}
  {s : Turnpike Name Gate Argument}

theorem solo (visit : Gate → Argument → Bool × Gate) (s : Turnpike Name Gate Argument) :
    s.Solo visit := by
  intro name argument rest htodo
  have hturn : s.run visit [name] =
      { gate := (visit s.gate argument).2
        todo := Function.update s.todo name rest
        history := s.history ++ [⟨name, argument, (visit s.gate argument).1⟩] } := by
    simp [run, turn, htodo]
  rw [hturn]
  exact ⟨rfl, rfl, rfl⟩

theorem kept_begin (start : Gate) (programs : Name → List Argument) :
    (begin start programs).Kept visit start programs where
  gate := rfl
  answers := .empty
  todo _ := rfl

theorem kept_turn (hs : s.Kept visit start programs) (name : Name) :
    (s.turn visit name).Kept visit start programs := by
  unfold turn
  split
  case h_1 => exact hs
  case h_2 argument rest htodo =>
    constructor
    case gate =>
      rw [gateBehind_grown, ← hs.gate]
    case answers =>
      refine hs.answers.grown ?_
      rw [Answered, ← hs.gate]
    case todo =>
      intro other
      rw [← hs.todo other]
      by_cases hother : name = other
      · subst hother
        simp [htodo]
      · simp [hother, Function.update_of_ne (Ne.symm hother)]

theorem kept_run (hs : s.Kept visit start programs) (schedule : List Name) :
    (s.run visit schedule).Kept visit start programs := by
  induction schedule generalizing s with
  | nil => exact hs
  | cons name rest ih => exact ih (kept_turn hs name)

/-- Whoever makes a visit has it in his program. -/
theorem Kept.argument_mem (hs : s.Kept visit start programs) {passage : Passage Name Argument}
    (h : passage ∈ s.history) : passage.argument ∈ programs passage.thread := by
  rw [← hs.todo passage.thread]
  refine List.mem_append_left _ (List.mem_map_of_mem ?_)
  exact List.mem_filter.mpr ⟨h, by simp⟩

end Turnpike

end Logbook
