/-
What a gate that opens at most once in an interval promises to somebody who comes alone.  As long
as intervals and readings fit, the rule is exact: a visit opens the gate when none has opened it
before, or when the last one that did lies at least its interval behind, wherever the base of the
clock lies.  At the ends of the range nothing wraps around, and the gate may open early for an
interval that does not fit, but for no other.  Main statements: `metered_run` and
`restrained_run`.
-/
import Logbook.Proofs.Gates.Arrivals
import Logbook.Proofs.Gates.Visits
import Mathlib.Data.List.Chain

namespace Logbook

/-- The arrival as a clock reads it whose base lies elsewhere. -/
def Arrival.shift (offset : Int) (arrival : Arrival) : Arrival :=
  { arrival with reading := arrival.reading + offset }

/-- A visit is an arrival whose interval and reading fit. -/
def Visit.arrival (visit : Visit) : Arrival :=
  ⟨visit.interval, visit.reading⟩

theorem Visit.clamp_reading (visit : Visit) : Nanos.clamp visit.reading = visit.reading :=
  Nanos.clamp_of_le visit.le_reading visit.reading_le

namespace Turnstile

/-- The arrivals for which the gate opens are visits, if all are. -/
theorem exists_visit_of_opened {visits : List Visit} {arrival : Arrival}
    (h : arrival ∈ (run (visits.map Visit.arrival)).opened) :
    ∃ visit ∈ visits, visit.arrival = arrival :=
  List.mem_map.mp (mem_of_mem_opened h)

/-- As long as everything fits, the gate opens when it has not opened before, or when it did so at
least the interval ago. -/
theorem opens_visit_iff (before : List Visit) (visit : Visit) :
    (run (before.map Visit.arrival)).opens visit.arrival = true ↔
      ∀ earlier, (run (before.map Visit.arrival)).opened.getLast? = some earlier →
        (visit.interval : Int) ≤ visit.reading - earlier.reading := by
  rw [opens_iff]
  apply forall₂_congr
  intro earlier hlast
  obtain ⟨first, -, rfl⟩ := exists_visit_of_opened (List.mem_of_getLast? hlast)
  simp only [Visit.arrival, visit.clamp_reading, first.clamp_reading,
    Nat.min_eq_left visit.interval_le]

/-- Only the time between readings counts for an answer. -/
theorem opens_shift {offset : Int} {before before' : List Visit} {visit visit' : Visit}
    (hopened : (run (before'.map Visit.arrival)).opened =
      (run (before.map Visit.arrival)).opened.map (Arrival.shift offset))
    (hvisit : visit'.arrival = visit.arrival.shift offset) :
    (run (before'.map Visit.arrival)).opens visit'.arrival =
      (run (before.map Visit.arrival)).opens visit.arrival := by
  have hinterval : visit'.interval = visit.interval := congrArg Arrival.interval hvisit
  have hreading : visit'.reading = visit.reading + offset := congrArg Arrival.reading hvisit
  rw [Bool.eq_iff_iff, opens_visit_iff, opens_visit_iff, hopened, List.getLast?_map, hinterval,
    hreading]
  cases (run (before.map Visit.arrival)).opened.getLast? with
  | none => simp
  | some earlier =>
      simp only [Option.map_some, Option.some.injEq, forall_eq', Arrival.shift]
      omega

/-- The answers do not depend on where the base of the clock lies. -/
theorem answers_shift (offset : Int) {visits shifted : List Visit}
    (h : shifted.map Visit.arrival = visits.map fun visit => visit.arrival.shift offset) :
    (run (shifted.map Visit.arrival)).answers = (run (visits.map Visit.arrival)).answers ∧
      (run (shifted.map Visit.arrival)).opened =
        (run (visits.map Visit.arrival)).opened.map (Arrival.shift offset) := by
  induction visits using List.reverseRecOn generalizing shifted with
  | nil =>
      obtain rfl : shifted = [] := by simpa using h
      exact ⟨rfl, rfl⟩
  | append_singleton before visit ih =>
      rw [List.map_append, List.map_singleton] at h
      obtain ⟨before', last, rfl, hbefore, hlast⟩ := List.map_eq_append_iff.mp h
      obtain ⟨visit', rfl, hvisit⟩ := List.map_eq_singleton_iff.mp hlast
      obtain ⟨hanswers, hopened⟩ := ih hbefore
      have hopens := opens_shift hopened hvisit
      rw [List.map_append, List.map_append, List.map_singleton, List.map_singleton, run_grown,
        run_grown, take, take, hopens, hanswers, hopened]
      refine ⟨rfl, ?_⟩
      cases (run (before.map Visit.arrival)).opens visit.arrival <;> simp [hvisit]

/-- The answer to a visit in the middle of others. -/
theorem answer_of_split {visits before after : List Visit} {visit : Visit}
    (hsplit : visits = before ++ visit :: after) :
    (run (visits.map Visit.arrival)).answers[before.length]? =
      some ((run (before.map Visit.arrival)).opens visit.arrival) := by
  have hlength : before.length = (before.map Visit.arrival).length := (List.length_map _).symm
  rw [hsplit, List.map_append, List.map_cons, hlength]
  exact answers_split _ _ _

/-- While the clock does not go back, openings keep their distance. -/
theorem isChain_opened {arrivals : List Arrival}
    (h : arrivals.Pairwise fun earlier later => earlier.reading ≤ later.reading) :
    (run arrivals).opened.IsChain fun earlier later : Arrival =>
      earlier.reading + (min later.interval Nanos.reach : Nat) ≤ later.reading := by
  induction arrivals using List.reverseRecOn with
  | nil => exact .nil
  | append_singleton before arrival ih =>
      obtain ⟨hbefore, -, hlater⟩ := List.pairwise_append.mp h
      rw [run_grown, take]
      cases hopens : (run before).opens arrival with
      | false => simpa using ih hbefore
      | true =>
          refine (ih hbefore).append (.singleton arrival) ?_
          intro earlier hearlier later hlast
          obtain rfl : arrival = later := by simpa using hlast
          have hkept := (opens_iff before arrival).mp hopens earlier hearlier
          have hsorted := hlater earlier (mem_of_mem_opened (List.mem_of_getLast? hearlier))
            arrival List.mem_cons_self
          have hclose := Nanos.clamp_sub_clamp_le hsorted
          omega

end Turnstile

open Turnstile

/-- What a gate promises to somebody whose intervals and readings fit. -/
structure Metered (visits : List Visit) : Prop where
  /-- Every visit is answered. -/
  answered : (run (visits.map Visit.arrival)).answers.length = visits.length
  /-- The visits that opened the gate are those with this answer, in order. -/
  opened : (run (visits.map Visit.arrival)).opened =
    (((visits.map Visit.arrival).zip (run (visits.map Visit.arrival)).answers).filter
      Prod.snd).map Prod.fst
  /-- A visit opens the gate when none has opened it before, or when the last one that did lies
  at least its interval behind. -/
  rule : ∀ before visit after, visits = before ++ visit :: after →
    ((run (visits.map Visit.arrival)).answers[before.length]? = some true ↔
      (run (before.map Visit.arrival)).opened = [] ∨
        ∃ earlier, (run (before.map Visit.arrival)).opened.getLast? = some earlier ∧
          (visit.interval : Int) ≤ visit.reading - earlier.reading)
  /-- It does not matter where the base of the clock lies. -/
  relocated : ∀ (offset : Int) (shifted : List Visit),
    shifted.map Visit.arrival = visits.map (fun visit => visit.arrival.shift offset) →
      (run (shifted.map Visit.arrival)).answers = (run (visits.map Visit.arrival)).answers
  /-- A gate that has opened is never mistaken for one that has not. -/
  marked : (run (visits.map Visit.arrival)).opened ≠ [] →
    (run (visits.map Visit.arrival)).gate.last ≠ Nanos.never
  /-- A visit opens the gate when the last one that did lies just its interval behind. -/
  exact : ∀ earlier (visit : Visit),
    (run (visits.map Visit.arrival)).opened.getLast? = some earlier →
      visit.reading = earlier.reading + visit.interval →
        (run (visits.map Visit.arrival)).opens visit.arrival = true
  /-- While the interval stays the same and the clock does not go back, every visit that finds the
  gate shut comes less than an interval behind one that opened it. -/
  suppressed : ∀ interval, (∀ visit ∈ visits, visit.interval = interval) →
    (visits.Pairwise fun earlier later => earlier.reading ≤ later.reading) →
      ∀ before visit after, visits = before ++ visit :: after →
        (run (visits.map Visit.arrival)).answers[before.length]? = some false →
          ∃ earlier ∈ (run (before.map Visit.arrival)).opened,
            earlier.reading ≤ visit.reading ∧ visit.reading < earlier.reading + interval

/-- Whoever comes alone to a gate, with intervals and readings that fit, gets what it promises. -/
theorem metered_run (visits : List Visit) : Metered visits where
  answered := by rw [length_answers, List.length_map]
  opened := opened_eq _
  rule before visit after hsplit := by
    rw [answer_of_split hsplit, Option.some_inj, opens_visit_iff]
    cases hlast : (run (before.map Visit.arrival)).opened.getLast? with
    | none => simp [List.getLast?_eq_none_iff.mp hlast]
    | some earlier =>
        have hopened : (run (before.map Visit.arrival)).opened ≠ [] := by
          intro hnil
          simp [hnil] at hlast
        simp [hopened]
  relocated offset shifted h := (answers_shift offset h).1
  marked h := last_ne_never h
  exact earlier visit hlast hreading := by
    rw [opens_visit_iff, hlast]
    rintro _ ⟨⟩
    omega
  suppressed interval hinterval hsorted before visit after hsplit hanswer := by
    rw [answer_of_split hsplit, Option.some_inj, ← Bool.not_eq_true, opens_visit_iff] at hanswer
    push Not at hanswer
    obtain ⟨earlier, hlast, hless⟩ := hanswer
    have hmem := List.mem_of_getLast? hlast
    obtain ⟨first, hfirst, rfl⟩ := exists_visit_of_opened hmem
    have hbetween : first.reading ≤ visit.reading := by
      rw [hsplit] at hsorted
      exact (List.pairwise_append.mp hsorted).2.2 first hfirst visit List.mem_cons_self
    have hvisit := hinterval visit (by simp [hsplit])
    refine ⟨first.arrival, hmem, hbetween, ?_⟩
    simp only [Visit.arrival] at hless ⊢
    omega

/-- What a gate promises to somebody whose intervals and readings may be as large as they like, and
whose clock does not go back. -/
structure Restrained (arrivals : List Arrival) : Prop where
  /-- The gate opens for the first arrival. -/
  first : ∀ arrival rest, arrivals = arrival :: rest → (run arrivals).answers[0]? = some true
  /-- A reading is kept cut to the range, and one before the base as its distance with the sign
  changed, which does not overflow. -/
  reading : ∀ arrival ∈ arrivals,
    (Nanos.ofReading arrival.reading).toInt = Nanos.clamp arrival.reading ∧
      ∀ distance : Nat, arrival.reading = -distance →
        Nanos.ofReading arrival.reading = -Nanos.ofReading distance ∧
          (-Nanos.ofReading distance).toInt = -(Nanos.ofReading distance).toInt
  /-- So is an interval. -/
  interval : ∀ arrival ∈ arrivals,
    (Nanos.ofInterval arrival.interval).toInt = min arrival.interval Nanos.reach
  /-- So is the time since the gate opened, as far as it is known. -/
  difference : ∀ before arrival after, arrivals = before ++ arrival :: after →
    (Nanos.difference (Nanos.ofReading arrival.reading) (run before).gate.last).toInt =
      max Int64.minValue.toInt
        (min (Nanos.clamp arrival.reading - (run before).gate.last.toInt) Int64.maxValue.toInt)
  /-- A gate that has opened is never mistaken for one that has not. -/
  marked : (run arrivals).opened ≠ [] → (run arrivals).gate.last ≠ Nanos.never
  /-- The gate opens when it has not opened before, or when what is kept of the time since it did is
  no less than what is kept of the interval. -/
  rule : ∀ before arrival after, arrivals = before ++ arrival :: after →
    ((run arrivals).answers[before.length]? = some true ↔
      ∀ earlier, (run before).opened.getLast? = some earlier →
        (min arrival.interval Nanos.reach : Nat) ≤
          Nanos.clamp arrival.reading - Nanos.clamp earlier.reading)
  /-- Between two openings passes at least the interval, or the longest time that is kept. -/
  spaced : (run arrivals).opened.IsChain fun earlier later : Arrival =>
    earlier.reading + (min later.interval Nanos.reach : Nat) ≤ later.reading
  /-- So no gate opens early but for an interval that does not fit. -/
  punctual : (run arrivals).opened.IsChain fun earlier later : Arrival =>
    later.reading < earlier.reading + later.interval → Nanos.reach < later.interval

/-- Whoever comes alone to a gate, with a clock that does not go back, is let through no earlier
than what is kept of intervals and readings allows. -/
theorem restrained_run {arrivals : List Arrival}
    (h : arrivals.Pairwise fun earlier later => earlier.reading ≤ later.reading) :
    Restrained arrivals where
  first arrival rest hsplit := by
    rw [hsplit]
    exact (answers_split [] arrival rest).trans (congrArg some (opens_of_fresh rfl arrival))
  reading arrival _ := by
    refine ⟨Nanos.toInt_ofReading_eq _, ?_⟩
    intro distance hdistance
    rw [hdistance]
    exact Nanos.ofReading_neg distance
  interval arrival _ := Nanos.toInt_ofInterval_eq _
  difference before arrival after _ := by
    rw [Nanos.toInt_difference, Nanos.toInt_ofReading_eq]
  marked hopened := last_ne_never hopened
  rule before arrival after hsplit := by
    rw [hsplit, answers_split, Option.some_inj, opens_iff]
  spaced := isChain_opened h
  punctual := by
    refine (isChain_opened h).imp ?_
    intro earlier later hspaced hearly
    omega

namespace MeteringWitness

/-- The time between the two visits does not fit, and is longer than the interval. -/
example : (run [⟨Nanos.reach, -Nanos.reach⟩, ⟨Nanos.reach, Nanos.reach⟩]).answers =
    [true, true] := by
  decide +kernel

/-- Readings on both sides of the range, and an interval of 2⁶⁴ - 1 seconds, for which the gate
opens early at the second and the third arrival. -/
def extremes : List Arrival :=
  [⟨0, -0x400000000000000000⟩, ⟨0xffffffffffffffff * 1000000000, 0⟩,
    ⟨0xffffffffffffffff * 1000000000, 0x400000000000000000⟩, ⟨1, 0x400000000000000001⟩]

theorem restrained_extremes :
    (extremes.Pairwise fun earlier later => earlier.reading ≤ later.reading) ∧
      (run extremes).answers = [true, true, true, false] ∧ Restrained extremes := by
  have hsorted : extremes.Pairwise fun earlier later => earlier.reading ≤ later.reading := by decide
  exact ⟨hsorted, by decide +kernel, restrained_run hsorted⟩

end MeteringWitness

end Logbook
