/-
Arrivals at a gate that opens at most once in an interval.  Somebody alone comes to the gate again
and again, each time with an interval and a reading of the clock, which may be as long and as far
away as they like.  What is kept of them is cut to the range.  Main statement:
`Turnstile.opens_iff`, the gate opens when it has not opened before, or when what is kept of the
time since it did is no less than what is kept of the interval.
-/
import Logbook.Proofs.Gates.Nanos
import Mathlib.Data.List.Induction

namespace Logbook

/-- An arrival at a gate: its interval, and the reading of the clock, however far away. -/
structure Arrival where
  interval : Nat
  reading : Int
  deriving DecidableEq

/-- A gate, its answers so far, and the arrivals for which it opened. -/
structure Turnstile where
  gate : IntervalGate := {}
  answers : List Bool := []
  opened : List Arrival := []

namespace Turnstile

def opens (s : Turnstile) (arrival : Arrival) : Bool :=
  (s.gate.visit arrival.interval arrival.reading).1

def take (s : Turnstile) (arrival : Arrival) : Turnstile where
  gate := (s.gate.visit arrival.interval arrival.reading).2
  answers := s.answers ++ [s.opens arrival]
  opened := s.opened ++ if s.opens arrival then [arrival] else []

/-- A new gate behind some arrivals. -/
def run (arrivals : List Arrival) : Turnstile :=
  arrivals.foldl take {}

theorem run_append (before after : List Arrival) :
    run (before ++ after) = after.foldl take (run before) :=
  List.foldl_append

@[simp] theorem run_grown (arrivals : List Arrival) (arrival : Arrival) :
    run (arrivals ++ [arrival]) = (run arrivals).take arrival := by
  rw [run_append]
  rfl

theorem gate_take (s : Turnstile) (arrival : Arrival) :
    (s.take arrival).gate =
      if s.opens arrival then ⟨Nanos.ofReading arrival.reading⟩ else s.gate :=
  s.gate.visit_snd arrival.interval arrival.reading

/-- What the last arrival has left for which the gate opened. -/
def gateOf (opened : List Arrival) : IntervalGate :=
  match opened.getLast? with
  | some arrival => ⟨Nanos.ofReading arrival.reading⟩
  | none => {}

/-- The gate holds the reading of the last arrival for which it opened, and nothing else. -/
theorem gate_run (arrivals : List Arrival) :
    (run arrivals).gate = gateOf (run arrivals).opened := by
  induction arrivals using List.reverseRecOn with
  | nil => rfl
  | append_singleton before arrival ih =>
      rw [run_grown, gate_take]
      cases hopens : (run before).opens arrival with
      | true => simp [take, gateOf, hopens]
      | false => simpa [take, hopens] using ih

/-- A gate that has opened is never mistaken for one that has not. -/
theorem last_ne_never {arrivals : List Arrival} (h : (run arrivals).opened ≠ []) :
    (run arrivals).gate.last ≠ Nanos.never := by
  rw [gate_run, gateOf, List.getLast?_eq_some_getLast h]
  exact Nanos.ofReading_ne_never _

/-- The gate opens when it has not opened before, or when what is kept of the time since it did
is no less than what is kept of the interval. -/
theorem opens_iff (before : List Arrival) (arrival : Arrival) :
    (run before).opens arrival = true ↔
      ∀ earlier, (run before).opened.getLast? = some earlier →
        (min arrival.interval Nanos.reach : Nat) ≤
          Nanos.clamp arrival.reading - Nanos.clamp earlier.reading := by
  rw [opens, IntervalGate.visit_fst, Bool.not_eq_true', ← Bool.not_eq_true,
    IntervalGate.isShut_iff_clamp, gate_run, gateOf]
  cases hlast : (run before).opened.getLast? with
  | none => simp
  | some earlier =>
      simp only [ne_eq, Nanos.ofReading_ne_never, not_false_eq_true, Nanos.toInt_ofReading_eq,
        true_and, Int.not_lt, Option.some.injEq, forall_eq']

theorem opens_of_fresh {before : List Arrival} (h : (run before).opened = [])
    (arrival : Arrival) : (run before).opens arrival = true := by
  rw [opens_iff, h]
  simp

theorem length_answers (arrivals : List Arrival) :
    (run arrivals).answers.length = arrivals.length := by
  induction arrivals using List.reverseRecOn with
  | nil => rfl
  | append_singleton before arrival ih => simp [take, ih]

/-- Answers stay, and the next ones come behind them. -/
theorem exists_answers_foldl (s : Turnstile) (arrivals : List Arrival) :
    ∃ more, (arrivals.foldl take s).answers = s.answers ++ more := by
  induction arrivals generalizing s with
  | nil => exact ⟨[], (List.append_nil _).symm⟩
  | cons arrival rest ih =>
      obtain ⟨more, hmore⟩ := ih (s.take arrival)
      refine ⟨s.opens arrival :: more, ?_⟩
      rw [List.foldl_cons, hmore, take, List.append_assoc]
      rfl

/-- What comes later has no part in an answer. -/
theorem answers_split (before : List Arrival) (arrival : Arrival) (after : List Arrival) :
    (run (before ++ arrival :: after)).answers[before.length]? =
      some ((run before).opens arrival) := by
  obtain ⟨more, hmore⟩ := exists_answers_foldl ((run before).take arrival) after
  have hanswers : (run (before ++ arrival :: after)).answers =
      (run before).answers ++ (run before).opens arrival :: more := by
    rw [run_append, List.foldl_cons, hmore, take, List.append_assoc]
    rfl
  rw [hanswers, ← length_answers before, List.getElem?_append_right (Nat.le_refl _), Nat.sub_self]
  rfl

/-- The arrivals for which the gate opened are those that were answered so. -/
theorem opened_eq (arrivals : List Arrival) :
    (run arrivals).opened =
      ((arrivals.zip (run arrivals).answers).filter Prod.snd).map Prod.fst := by
  induction arrivals using List.reverseRecOn with
  | nil => rfl
  | append_singleton before arrival ih =>
      rw [run_grown, take, List.zip_append (length_answers before).symm]
      cases hopens : (run before).opens arrival <;> simp [ih]

theorem mem_of_mem_opened {arrivals : List Arrival} {arrival : Arrival}
    (h : arrival ∈ (run arrivals).opened) : arrival ∈ arrivals := by
  rw [opened_eq] at h
  obtain ⟨⟨_, opens⟩, hmem, rfl⟩ := List.mem_map.mp h
  exact (List.of_mem_zip (List.mem_filter.mp hmem).1).1

end Turnstile

end Logbook
