/-
Threads that share an interval gate.  A visit loads when the gate last opened and holds that
against its own reading of the clock and its own interval.  If the gate is shut, that is the end
of the visit.  If not, the visit puts its reading in the place of the value it loaded, which it
can do only while that value is still there.

Each of these is one turn of one thread, and a schedule says whose turn is next.  The readings of
the threads need not increase, and every visit has an interval of its own.  The history keeps
what happened, in its order.  Main statements: `invariant_run`, every mark of the history fits
what stands in front of it, and `turns_of_visit`, a thread alone makes a visit to the gate.
-/
import Logbook.Proofs.Chronicle
import Logbook.Proofs.Gates.Nanos
import Mathlib.Logic.Function.Basic

namespace Logbook

/-- A visit to a gate: its interval, and what it reads off the clock.  Both are kept exactly. -/
structure Visit where
  interval : Nat
  reading : Int
  interval_le : interval ≤ Nanos.reach := by decide
  le_reading : -Nanos.reach ≤ reading := by decide
  reading_le : reading ≤ Nanos.reach := by decide

namespace Visit

/-- The reading as the gate keeps it. -/
def now (visit : Visit) : Int64 :=
  Nanos.ofReading visit.reading

/-- The interval as the gate keeps it. -/
def span (visit : Visit) : Int64 :=
  Nanos.ofInterval visit.interval

theorem toInt_now (visit : Visit) : visit.now.toInt = visit.reading :=
  Nanos.toInt_ofReading visit.le_reading visit.reading_le

theorem now_ne_never (visit : Visit) : visit.now ≠ Nanos.never :=
  Nanos.ofReading_ne_never visit.reading

theorem isShut_iff (visit : Visit) (gate : IntervalGate) :
    gate.isShut visit.span visit.now = true ↔
      gate.last ≠ Nanos.never ∧ visit.reading - gate.last.toInt < visit.interval :=
  IntervalGate.isShut_iff visit.interval_le visit.le_reading visit.reading_le

/-- What happened in a visit of a thread. -/
inductive Mark (Name : Type) where
  /-- It loaded a value with which the gate is shut, and ended. -/
  | shut (thread : Name) (visit : Visit) (loaded : Int64)
  /-- It loaded a value with which the gate is not shut. -/
  | expired (thread : Name) (visit : Visit) (loaded : Int64)
  /-- It found the value it had loaded still there, or not, and ended. -/
  | exchanged (thread : Name) (visit : Visit) (loaded : Int64) (fired : Bool)

end Visit

/-- A thread that visits a gate: the visit it is in the middle of, with the value which that one
has loaded, and its visits to come. -/
structure Visitor where
  pending : Option (Visit × Int64)
  todo : List Visit

/-- A gate that threads share, and what happened so far. -/
structure SharedGate (Name : Type) where
  gate : IntervalGate
  visitors : Name → Visitor
  history : List (Visit.Mark Name)

namespace Visit.Mark

variable {Name : Type}

/-- Whose visit it was. -/
def thread : Visit.Mark Name → Name
  | .shut thread _ _ => thread
  | .expired thread _ _ => thread
  | .exchanged thread _ _ _ => thread

/-- The visit that was begun. -/
def begun? : Visit.Mark Name → Option Visit
  | .shut _ visit _ => some visit
  | .expired _ visit _ => some visit
  | .exchanged _ _ _ _ => none

/-- The visit that fired. -/
def firing? : Visit.Mark Name → Option Visit
  | .exchanged _ visit _ true => some visit
  | _ => none

end Visit.Mark

/-- The visits that fired, in order. -/
def firings {Name : Type} (history : List (Visit.Mark Name)) : List Visit :=
  history.filterMap Visit.Mark.firing?

/-- The gate after the firings of a history. -/
def gateAfter {Name : Type} (history : List (Visit.Mark Name)) : IntervalGate :=
  match (firings history).getLast? with
  | some visit => ⟨visit.now⟩
  | none => {}

section

variable {Name : Type}

@[simp] theorem firings_append (before after : List (Visit.Mark Name)) :
    firings (before ++ after) = firings before ++ firings after :=
  List.filterMap_append

@[simp] theorem firings_nil : firings ([] : List (Visit.Mark Name)) = [] := rfl

theorem firings_cons (mark : Visit.Mark Name) (rest : List (Visit.Mark Name)) :
    firings (mark :: rest) = mark.firing?.toList ++ firings rest := by
  cases h : mark.firing? <;> simp [firings, h]

theorem gateAfter_append_of_firings_eq_nil {before after : List (Visit.Mark Name)}
    (h : firings after = []) : gateAfter (before ++ after) = gateAfter before := by
  rw [gateAfter, firings_append, h, List.append_nil, gateAfter]

/-- A visit that fires leaves its reading in the gate; no other mark changes the gate. -/
theorem gateAfter_grown (history : List (Visit.Mark Name)) (mark : Visit.Mark Name) :
    gateAfter (history ++ [mark]) =
      match mark.firing? with
      | some visit => ⟨visit.now⟩
      | none => gateAfter history := by
  cases h : mark.firing? with
  | some visit => simp [gateAfter, firings_cons, h]
  | none => exact gateAfter_append_of_firings_eq_nil (by simp [firings_cons, h])

/-- What a mark says about the history before it. -/
def Visit.Mark.Fits (history : List (Visit.Mark Name)) : Visit.Mark Name → Prop
  | .shut _ visit loaded =>
      (gateAfter history).last = loaded ∧ (gateAfter history).isShut visit.span visit.now = true
  | .expired _ visit loaded =>
      (gateAfter history).last = loaded ∧ (gateAfter history).isShut visit.span visit.now = false
  | .exchanged thread visit loaded fired =>
      fired = decide ((gateAfter history).last = loaded) ∧
        ∃ before between, history = before ++ .expired thread visit loaded :: between ∧
          ∀ mark ∈ between, mark.thread ≠ thread

end

namespace SharedGate

variable {Name : Type}

/-- Threads with their visits to come, at a gate that has not opened yet. -/
def begin (programs : Name → List Visit) : SharedGate Name where
  gate := {}
  visitors name := ⟨none, programs name⟩
  history := []

variable [DecidableEq Name]

/-- Moves a thread on, and notes what happened. -/
def put (s : SharedGate Name) (name : Name) (visitor : Visitor) (mark : Visit.Mark Name) :
    SharedGate Name :=
  { s with visitors := Function.update s.visitors name visitor, history := s.history ++ [mark] }

@[simp] theorem put_gate (s : SharedGate Name) (name : Name) (visitor : Visitor)
    (mark : Visit.Mark Name) : (s.put name visitor mark).gate = s.gate := rfl

@[simp] theorem put_history (s : SharedGate Name) (name : Name) (visitor : Visitor)
    (mark : Visit.Mark Name) : (s.put name visitor mark).history = s.history ++ [mark] := rfl

@[simp] theorem put_visitors (s : SharedGate Name) (name : Name) (visitor : Visitor)
    (mark : Visit.Mark Name) :
    (s.put name visitor mark).visitors = Function.update s.visitors name visitor := rfl

/-- One turn of a thread. -/
def turn (s : SharedGate Name) (name : Name) : SharedGate Name :=
  match (s.visitors name).pending, (s.visitors name).todo with
  | none, [] => s
  | none, visit :: rest =>
      if s.gate.isShut visit.span visit.now then
        s.put name ⟨none, rest⟩ (.shut name visit s.gate.last)
      else s.put name ⟨some (visit, s.gate.last), rest⟩ (.expired name visit s.gate.last)
  | some (visit, loaded), todo =>
      if s.gate.last = loaded then
        { s with gate := ⟨visit.now⟩ }.put name ⟨none, todo⟩ (.exchanged name visit loaded true)
      else s.put name ⟨none, todo⟩ (.exchanged name visit loaded false)

def run (s : SharedGate Name) (schedule : List Name) : SharedGate Name :=
  schedule.foldl turn s

/-- What every turn keeps. -/
structure Invariant (programs : Name → List Visit) (s : SharedGate Name) : Prop where
  gate : s.gate = gateAfter s.history
  chronicle : Chronicle Visit.Mark.Fits s.history
  /-- A visit in the middle of which a thread is began with the last mark of that thread. -/
  pending : ∀ name visit loaded, (s.visitors name).pending = some (visit, loaded) →
    ∃ before between, s.history = before ++ .expired name visit loaded :: between ∧
      ∀ mark ∈ between, mark.thread ≠ name
  /-- Every thread makes its visits in their order. -/
  todo : ∀ name, (s.history.filter (·.thread = name)).filterMap Visit.Mark.begun? ++
    (s.visitors name).todo = programs name

theorem invariant_begin (programs : Name → List Visit) : (begin programs).Invariant programs where
  gate := rfl
  chronicle := .empty
  pending name visit loaded h := by simp [begin] at h
  todo name := rfl

/-- A thread that moves on keeps the invariant, if its mark fits the history and says what
becomes of the gate and of the thread. -/
theorem Invariant.put {programs : Name → List Visit} {s : SharedGate Name}
    (hs : s.Invariant programs) {name : Name} {gate : IntervalGate} {visitor : Visitor}
    {mark : Visit.Mark Name} (hthread : mark.thread = name) (hfits : mark.Fits s.history)
    (hgate : gate = match mark.firing? with
      | some visit => ⟨visit.now⟩
      | none => s.gate)
    (hpending : ∀ visit loaded, visitor.pending = some (visit, loaded) →
      mark = .expired name visit loaded)
    (htodo : mark.begun?.toList ++ visitor.todo = (s.visitors name).todo) :
    ({ s with gate }.put name visitor mark).Invariant programs where
  gate := by
    rw [put_gate, put_history, gateAfter_grown, ← hs.gate]
    exact hgate
  chronicle := hs.chronicle.grown hfits
  pending other visit loaded h := by
    by_cases hother : other = name
    · subst hother
      rw [put_visitors, Function.update_self] at h
      exact ⟨s.history, [], by simp [hpending visit loaded h], by simp⟩
    · rw [put_visitors, Function.update_of_ne hother] at h
      obtain ⟨before, between, hsplit, hbetween⟩ := hs.pending other visit loaded h
      refine ⟨before, between ++ [mark], by simp [hsplit], ?_⟩
      intro earlier hearlier
      rcases List.mem_append.mp hearlier with hmem | hmem
      · exact hbetween earlier hmem
      · obtain rfl := List.mem_singleton.mp hmem
        rw [hthread]
        exact Ne.symm hother
  todo other := by
    by_cases hother : other = name
    · subst hother
      rw [← hs.todo other, ← htodo]
      cases hbegun : mark.begun? <;> simp [hthread, hbegun]
    · have hne : ¬ mark.thread = other := hthread ▸ Ne.symm hother
      rw [← hs.todo other]
      simp [hne, Function.update_of_ne hother]

theorem invariant_turn {programs : Name → List Visit} {s : SharedGate Name}
    (hs : s.Invariant programs) (name : Name) : (s.turn name).Invariant programs := by
  unfold turn
  split
  case h_1 => exact hs
  case h_2 visit rest hpending htodo =>
    split
    case isTrue hshut =>
      refine hs.put rfl ⟨?_, ?_⟩ rfl (by simp) htodo.symm
      · rw [← hs.gate]
      · rwa [← hs.gate]
    case isFalse hopen =>
      refine hs.put rfl ⟨?_, ?_⟩ rfl (by simp +contextual) htodo.symm
      · rw [← hs.gate]
      · rw [← hs.gate]
        exact Bool.eq_false_iff.mpr hopen
  case h_3 visit loaded hpending =>
    have hbegun := hs.pending name visit loaded hpending
    split
    case isTrue hsame =>
      refine hs.put rfl ⟨?_, hbegun⟩ rfl (by simp) rfl
      simpa [← hs.gate] using hsame
    case isFalse hother =>
      refine hs.put rfl ⟨?_, hbegun⟩ rfl (by simp) rfl
      simpa [← hs.gate] using hother

theorem invariant_run {programs : Name → List Visit} {s : SharedGate Name}
    (hs : s.Invariant programs) (schedule : List Name) : (s.run schedule).Invariant programs := by
  induction schedule generalizing s with
  | nil => exact hs
  | cons name rest ih => exact ih (invariant_turn hs name)

/-- While it is alone, a thread makes a visit as anybody else does: the gate is left as one visit
leaves it, and the visit fires when it would. -/
theorem turns_of_visit {s : SharedGate Name} {name : Name} {visit : Visit} {rest : List Visit}
    (h : s.visitors name = ⟨none, visit :: rest⟩) :
    ∃ n, (s.run (List.replicate n name)).gate = (s.gate.visit visit.interval visit.reading).2 ∧
      (s.run (List.replicate n name)).visitors = Function.update s.visitors name ⟨none, rest⟩ ∧
      firings (s.run (List.replicate n name)).history = firings s.history ++
        if (s.gate.visit visit.interval visit.reading).1 then [visit] else [] := by
  cases hshut : s.gate.isShut visit.span visit.now with
  | true =>
      have hvisit : s.gate.visit visit.interval visit.reading = (false, s.gate) := if_pos hshut
      have hturn : s.turn name = s.put name ⟨none, rest⟩ (.shut name visit s.gate.last) := by
        simp [turn, h, hshut]
      refine ⟨1, ?_⟩
      rw [hvisit, List.replicate_one, run, List.foldl_cons, List.foldl_nil, hturn]
      simp [firings_cons, Visit.Mark.firing?]
  | false =>
      have hvisit : s.gate.visit visit.interval visit.reading = (true, ⟨visit.now⟩) :=
        if_neg (Bool.eq_false_iff.mp hshut)
      have hload : s.turn name =
          s.put name ⟨some (visit, s.gate.last), rest⟩ (.expired name visit s.gate.last) := by
        simp [turn, h, hshut]
      have hexchange : (s.turn name).turn name =
          { s.turn name with gate := ⟨visit.now⟩ }.put name ⟨none, rest⟩
            (.exchanged name visit s.gate.last true) := by
        rw [hload]
        simp [turn]
      refine ⟨2, ?_⟩
      rw [hvisit, List.replicate_succ, List.replicate_one, run, List.foldl_cons, List.foldl_cons,
        List.foldl_nil, hexchange, hload]
      simp [firings_cons, Visit.Mark.firing?]

end SharedGate

end Logbook
