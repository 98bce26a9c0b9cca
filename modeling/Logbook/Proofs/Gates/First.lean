/-
Threads that share a gate which opens on its first visit only.  A visit loads whether the gate has
opened.  If it has, that is the end of the visit.  If not, the visit swaps in that it has now, and
it fires if the gate had not opened until then.  Between the two others may do the same, so several
visits may see a gate that has not opened, but only the first of them to swap fires.  Main
statements: `invariant_run` and `Chronicle.count_firings`.
-/
import Logbook.Gate
import Logbook.Proofs.Chronicle
import Mathlib.Logic.Function.Basic

namespace Logbook

/-- What happened in a visit of a thread. -/
inductive FirstMark (Name : Type) where
  /-- It saw that the gate has opened, and ended. -/
  | passed (thread : Name)
  /-- It saw that the gate has not opened. -/
  | saw (thread : Name)
  /-- It swapped in that the gate has opened, and ended. -/
  | swapped (thread : Name) (fired : Bool)

namespace FirstMark

variable {Name : Type}

/-- Whose visit it was. -/
def thread : FirstMark Name → Name
  | .passed thread => thread
  | .saw thread => thread
  | .swapped thread _ => thread

/-- A visit began with this mark. -/
def isBegin : FirstMark Name → Bool
  | .swapped _ _ => false
  | _ => true

/-- A visit came to its end with this mark. -/
def isEnd : FirstMark Name → Bool
  | .saw _ => false
  | _ => true

def isSwap : FirstMark Name → Bool
  | .swapped _ _ => true
  | _ => false

/-- A visit fired with this mark. -/
def isFiring : FirstMark Name → Bool
  | .swapped _ fired => fired
  | _ => false

/-- What a mark says about the history before it. -/
def Fits (history : List (FirstMark Name)) : FirstMark Name → Prop
  | .passed _ => history.any isSwap = true
  | .saw _ => history.any isSwap = false
  | .swapped thread fired => fired = !history.any isSwap ∧
      ∃ before between, history = before ++ .saw thread :: between ∧
        ∀ mark ∈ between, mark.thread ≠ thread

end FirstMark

open FirstMark

namespace Chronicle

variable {Name : Type} {history : List (FirstMark Name)}

/-- Of all visits the first that swaps fires, and no other. -/
theorem count_firings (h : Chronicle FirstMark.Fits history) :
    history.countP isFiring = if history.any isSwap then 1 else 0 := by
  induction h with
  | empty => rfl
  | @grown history mark hbefore hfits ih =>
      rw [List.countP_append, List.any_append, ih]
      rcases mark with thread | thread | ⟨thread, fired⟩
      · simp [isFiring, isSwap]
      · simp [isFiring, isSwap]
      · obtain ⟨rfl, -⟩ := hfits
        cases hswap : history.any isSwap <;> simp [isFiring, isSwap]

/-- Where a visit has come to its end, a visit has swapped. -/
theorem any_isSwap (h : Chronicle FirstMark.Fits history) {mark : FirstMark Name}
    (hmark : mark ∈ history) (hend : mark.isEnd = true) : history.any isSwap = true := by
  rcases mark with thread | thread | ⟨thread, fired⟩
  · obtain ⟨before, after, hsplit, hfits⟩ := h.exists_split hmark
    have hbefore : before.any isSwap = true := hfits
    rw [hsplit, List.any_append, hbefore, Bool.true_or]
  · cases hend
  · exact List.any_eq_true.mpr ⟨_, hmark, rfl⟩

end Chronicle

/-- A thread that visits a gate: whether it is in the middle of a visit, and how many visits are
still to come. -/
structure FirstVisitor where
  pending : Bool
  todo : Nat

/-- A gate that threads share, and what happened so far. -/
structure SharedOnce (Name : Type) where
  gate : OnceGate
  visitors : Name → FirstVisitor
  history : List (FirstMark Name)

namespace SharedOnce

variable {Name : Type}

/-- Threads with a number of visits each, at a gate that has not opened. -/
def begin (programs : Name → Nat) : SharedOnce Name where
  gate := {}
  visitors name := ⟨false, programs name⟩
  history := []

variable [DecidableEq Name]

/-- Moves a thread on, and notes what happened. -/
def put (s : SharedOnce Name) (name : Name) (visitor : FirstVisitor) (mark : FirstMark Name) :
    SharedOnce Name :=
  { s with visitors := Function.update s.visitors name visitor, history := s.history ++ [mark] }

/-- One turn of a thread. -/
def turn (s : SharedOnce Name) (name : Name) : SharedOnce Name :=
  match (s.visitors name).pending, (s.visitors name).todo with
  | false, 0 => s
  | false, rest + 1 =>
      if s.gate.hasFired then s.put name ⟨false, rest⟩ (.passed name)
      else s.put name ⟨true, rest⟩ (.saw name)
  | true, rest =>
      { s with gate := ⟨true⟩ }.put name ⟨false, rest⟩ (.swapped name !s.gate.hasFired)

def run (s : SharedOnce Name) (schedule : List Name) : SharedOnce Name :=
  schedule.foldl turn s

/-- What every turn keeps. -/
structure Invariant (programs : Name → Nat) (s : SharedOnce Name) : Prop where
  gate : s.gate.hasFired = s.history.any isSwap
  chronicle : Chronicle FirstMark.Fits s.history
  /-- A visit in the middle of which a thread is began with the last mark of that thread. -/
  pending : ∀ name, (s.visitors name).pending = true →
    ∃ before between, s.history = before ++ .saw name :: between ∧
      ∀ mark ∈ between, mark.thread ≠ name
  /-- Every thread makes as many visits as it has to. -/
  todo : ∀ name, (s.history.filter (·.thread = name)).countP isBegin + (s.visitors name).todo =
    programs name

theorem invariant_begin (programs : Name → Nat) : (begin programs).Invariant programs where
  gate := rfl
  chronicle := .empty
  pending name h := by simp [begin] at h
  todo name := by simp [begin]

variable {programs : Name → Nat} {s : SharedOnce Name}

/-- A thread that moves on keeps the invariant, if its mark fits the history and says what
becomes of the gate and of the thread. -/
theorem Invariant.put (hs : s.Invariant programs) {name : Name} {gate : OnceGate}
    {visitor : FirstVisitor} {mark : FirstMark Name} (hthread : mark.thread = name)
    (hfits : mark.Fits s.history) (hgate : gate.hasFired = (s.gate.hasFired || mark.isSwap))
    (hpending : visitor.pending = true → mark = .saw name)
    (htodo : mark.isBegin.toNat + visitor.todo = (s.visitors name).todo) :
    ({ s with gate }.put name visitor mark).Invariant programs where
  gate := by
    simp only [SharedOnce.put, List.any_append, List.any_cons, List.any_nil, Bool.or_false]
    rw [hgate, hs.gate]
  chronicle := hs.chronicle.grown hfits
  pending other h := by
    simp only [SharedOnce.put] at h ⊢
    by_cases hother : other = name
    · subst hother
      rw [Function.update_self] at h
      exact ⟨s.history, [], by simp [hpending h], by simp⟩
    · rw [Function.update_of_ne hother] at h
      obtain ⟨before, between, hsplit, hbetween⟩ := hs.pending other h
      refine ⟨before, between ++ [mark], by simp [hsplit], ?_⟩
      intro earlier hearlier
      rcases List.mem_append.mp hearlier with hmem | hmem
      · exact hbetween earlier hmem
      · obtain rfl := List.mem_singleton.mp hmem
        rw [hthread]
        exact Ne.symm hother
  todo other := by
    rw [← hs.todo other]
    simp only [SharedOnce.put, List.filter_append, List.countP_append]
    by_cases hother : other = name
    · subst hother
      rw [Function.update_self, ← htodo]
      cases hbegin : mark.isBegin <;> simp [hthread, hbegin, Nat.add_assoc]
    · have hne : ¬mark.thread = other := hthread ▸ Ne.symm hother
      simp [hne, Function.update_of_ne hother]

theorem invariant_turn (hs : s.Invariant programs) (name : Name) :
    (s.turn name).Invariant programs := by
  unfold turn
  split
  case h_1 => exact hs
  case h_2 rest hpending htodo =>
    split
    case isTrue hopened =>
      refine hs.put rfl ?_ (by simp [isSwap]) (by simp) ?_
      · rwa [Fits, ← hs.gate]
      · rw [htodo]
        exact Nat.add_comm 1 rest
    case isFalse hopened =>
      refine hs.put rfl ?_ (by simp [isSwap]) (fun _ => rfl) ?_
      · rw [Fits, ← hs.gate]
        exact Bool.eq_false_iff.mpr hopened
      · rw [htodo]
        exact Nat.add_comm 1 rest
  case h_3 hpending =>
    have hbegun := hs.pending name hpending
    refine hs.put rfl ⟨by rw [hs.gate], hbegun⟩ (by simp [isSwap]) (by simp) ?_
    simp [isBegin]

theorem invariant_run (hs : s.Invariant programs) (schedule : List Name) :
    (s.run schedule).Invariant programs := by
  induction schedule generalizing s with
  | nil => exact hs
  | cons name rest ih => exact ih (invariant_turn hs name)

/-- What has happened stays so. -/
theorem mem_history_run (s : SharedOnce Name) (schedule : List Name) {mark : FirstMark Name}
    (h : mark ∈ s.history) : mark ∈ (s.run schedule).history := by
  induction schedule generalizing s with
  | nil => exact h
  | cons name rest ih =>
      apply ih
      unfold turn
      split
      · exact h
      · split <;> exact List.mem_append_left _ h
      · exact List.mem_append_left _ h

/-- While it is alone, a thread makes a visit as anybody else does: the gate is left as one visit
leaves it, and the visit fires when it would. -/
theorem turns_of_visit {name : Name} {rest : Nat} (h : s.visitors name = ⟨false, rest + 1⟩) :
    ∃ n, (s.run (List.replicate n name)).gate = s.gate.visit.2 ∧
      (s.run (List.replicate n name)).visitors = Function.update s.visitors name ⟨false, rest⟩ ∧
      (s.run (List.replicate n name)).history.countP isFiring =
        s.history.countP isFiring + s.gate.visit.1.toNat := by
  obtain ⟨⟨hasFired⟩, visitors, history⟩ := s
  simp only at h
  rcases hasFired with _ | _
  · refine ⟨2, ?_⟩
    simp [run, List.replicate, turn, put, h, OnceGate.visit, isFiring]
  · refine ⟨1, ?_⟩
    simp [run, List.replicate, turn, put, h, OnceGate.visit, isFiring]

end SharedOnce

end Logbook
