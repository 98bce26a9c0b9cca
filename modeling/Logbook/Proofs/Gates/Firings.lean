/-
Firings of an interval gate that threads share.  A visit may decide on a value that is no longer
in the gate, and values may come back when intervals are zero.  Yet it fires only while the value
it decided on is there, so each firing keeps its distance from the one before it, and a visit that
does not fire has a firing to blame: the one it loaded, or one that came in between.  While all
intervals are positive no value comes back, and of the visits that decided on the same value one
fires.  Main statement: `throttled_run`.
-/
import Logbook.Proofs.Gates.Visits
import Mathlib.Data.List.Chain

namespace Logbook

variable {Name : Type} {history : List (Visit.Mark Name)}

/-- A gate that has opened holds the reading of the last visit that fired. -/
theorem exists_firing_of_last_ne (h : (gateAfter history).last ≠ Nanos.never) :
    ∃ visit, (firings history).getLast? = some visit ∧ (gateAfter history).last = visit.now := by
  unfold gateAfter at h ⊢
  cases hlast : (firings history).getLast? with
  | none => simp [hlast] at h
  | some visit => exact ⟨visit, rfl, rfl⟩

theorem mem_firings_of_mem {thread : Name} {visit : Visit} {loaded : Int64}
    (h : .exchanged thread visit loaded true ∈ history) : visit ∈ firings history :=
  List.mem_filterMap.mpr ⟨_, h, rfl⟩

namespace Visit.Mark

theorem eq_exchanged_of_firing? {mark : Visit.Mark Name} {visit : Visit}
    (h : mark.firing? = some visit) :
    ∃ thread loaded, mark = .exchanged thread visit loaded true := by
  cases mark with
  | shut thread other loaded => cases h
  | expired thread other loaded => cases h
  | exchanged thread other loaded fired =>
      cases fired with
      | false => cases h
      | true =>
          obtain rfl := Option.some.inj h
          exact ⟨thread, loaded, rfl⟩

/-- A visit that fires does so while the gate is not shut for it: what it loaded is still there. -/
theorem Fits.not_shut {thread : Name} {visit : Visit} {loaded : Int64}
    (hhistory : Chronicle Visit.Mark.Fits history)
    (h : (Visit.Mark.exchanged thread visit loaded true).Fits history) :
    (gateAfter history).isShut visit.span visit.now = false := by
  obtain ⟨hsame, before, between, hsplit, -⟩ := h
  obtain ⟨hloaded, hopen⟩ := (hhistory.split hsplit).2
  have hgate : gateAfter history = gateAfter before := by
    rw [IntervalGate.mk.injEq (gateAfter history).last (gateAfter before).last, hloaded]
    exact of_decide_eq_true hsame.symm
  rw [hgate]
  exact hopen

/-- A visit that fires is at least its interval behind the firing before it. -/
theorem Fits.le_reading {thread : Name} {visit earlier : Visit} {loaded : Int64}
    (hhistory : Chronicle Visit.Mark.Fits history)
    (h : (Visit.Mark.exchanged thread visit loaded true).Fits history)
    (hlast : (firings history).getLast? = some earlier) :
    earlier.reading + visit.interval ≤ visit.reading := by
  have hgate : gateAfter history = ⟨earlier.now⟩ := by rw [gateAfter, hlast]
  have hopen := h.not_shut hhistory
  rw [hgate, ← Bool.not_eq_true, visit.isShut_iff] at hopen
  have hnot : ¬ visit.reading - earlier.now.toInt < visit.interval :=
    fun hless => hopen ⟨earlier.now_ne_never, hless⟩
  rw [earlier.toInt_now] at hnot
  omega

end Visit.Mark

namespace Chronicle

/-- Firings keep their distance. -/
theorem isChain_firings (h : Chronicle Visit.Mark.Fits history) :
    (firings history).IsChain fun earlier later : Visit =>
      earlier.reading + later.interval ≤ later.reading := by
  induction h with
  | empty => exact .nil
  | @grown history mark hbefore hfits ih =>
      rw [firings_append, firings_cons, firings_nil, List.append_nil]
      cases hfiring : mark.firing? with
      | none => simpa using ih
      | some visit =>
          obtain ⟨thread, loaded, rfl⟩ := Visit.Mark.eq_exchanged_of_firing? hfiring
          refine ih.append (.singleton visit) ?_
          intro earlier hearlier later hlater
          obtain rfl : visit = later := by simpa using hlater
          exact hfits.le_reading hbefore hearlier

/-- A visit that finds the gate shut has loaded a firing less than its interval ago. -/
theorem exists_firing_of_shut (h : Chronicle Visit.Mark.Fits history)
    {before after : List (Visit.Mark Name)} {thread : Name} {visit : Visit} {loaded : Int64}
    (hsplit : history = before ++ .shut thread visit loaded :: after) :
    ∃ firing ∈ firings before, loaded = firing.now ∧
      visit.reading - firing.reading < visit.interval := by
  obtain ⟨hloaded, hshut⟩ := (h.split hsplit).2
  obtain ⟨hopened, hless⟩ := (visit.isShut_iff _).mp hshut
  obtain ⟨firing, hlast, hnow⟩ := exists_firing_of_last_ne hopened
  rw [hnow, firing.toInt_now] at hless
  exact ⟨firing, List.mem_of_getLast? hlast, hloaded ▸ hnow, hless⟩

/-- A visit that does not find what it loaded has lost to a firing in between. -/
theorem exists_firing_of_lost (h : Chronicle Visit.Mark.Fits history)
    {before after : List (Visit.Mark Name)} {thread : Name} {visit : Visit} {loaded : Int64}
    (hsplit : history = before ++ .exchanged thread visit loaded false :: after) :
    ∃ start between, before = start ++ .expired thread visit loaded :: between ∧
      (∀ mark ∈ between, mark.thread ≠ thread) ∧ (gateAfter start).last = loaded ∧
        firings between ≠ [] := by
  obtain ⟨hbefore, hchanged, start, between, hbegun, hbetween⟩ := h.split hsplit
  obtain ⟨hloaded, -⟩ := (hbefore.split hbegun).2
  refine ⟨start, between, hbegun, hbetween, hloaded, ?_⟩
  intro hnone
  have hquiet : firings (.expired thread visit loaded :: between) = [] := by
    rw [firings_cons, hnone]
    rfl
  have hsame : (gateAfter before).last = loaded := by
    rw [hbegun, gateAfter_append_of_firings_eq_nil hquiet, hloaded]
  exact of_decide_eq_false hchanged.symm hsame

end Chronicle

namespace Visit.Mark

/-- A visit that fires after a positive interval leaves a later reading than it found. -/
theorem Fits.last_lt {thread : Name} {visit : Visit} {loaded : Int64}
    (hhistory : Chronicle Visit.Mark.Fits history)
    (h : (Visit.Mark.exchanged thread visit loaded true).Fits history)
    (hpositive : 0 < visit.interval) : (gateAfter history).last.toInt < visit.now.toInt := by
  rw [visit.toInt_now]
  by_cases hfresh : (gateAfter history).last = Nanos.never
  · have hlow := visit.le_reading
    have hnever : Nanos.never.toInt = -0x8000000000000000 := by decide
    rw [hfresh, hnever]
    rw [Nanos.reach] at hlow
    omega
  · obtain ⟨earlier, hlast, hnow⟩ := exists_firing_of_last_ne hfresh
    have hdistance := h.le_reading hhistory hlast
    rw [hnow, earlier.toInt_now]
    omega

/-- A visit that decided on a value and came to its end: whether it fired. -/
def contest? (value : Int64) : Visit.Mark Name → Option Bool
  | .exchanged _ _ loaded fired => if loaded = value then some fired else none
  | _ => none

theorem contest?_of_firing?_eq_none {mark : Visit.Mark Name} {value : Int64}
    (h : mark.firing? = none) : mark.contest? value ≠ some true := by
  cases mark with
  | shut thread visit loaded => simp [contest?]
  | expired thread visit loaded => simp [contest?]
  | exchanged thread visit loaded fired =>
      cases fired with
      | false => simp [contest?]
      | true => cases h

end Visit.Mark

/-- Of the visits that decided on a value and came to their end, in order, whether they fired. -/
def contests (value : Int64) (history : List (Visit.Mark Name)) : List Bool :=
  history.filterMap (Visit.Mark.contest? value)

@[simp] theorem contests_grown (value : Int64) (history : List (Visit.Mark Name))
    (mark : Visit.Mark Name) :
    contests value (history ++ [mark]) = contests value history ++ (mark.contest? value).toList :=
  filterMap_grown _ _ _

namespace Chronicle

/-- While the intervals are positive, the gate leaves a value for good when a visit that decided
on it fires. -/
theorem count_contests_le (h : Chronicle Visit.Mark.Fits history)
    (hpositive : ∀ visit ∈ firings history, 0 < visit.interval) (value : Int64) :
    (contests value history).count true ≤ 1 ∧
      (true ∈ contests value history → value.toInt < (gateAfter history).last.toInt) := by
  induction h with
  | empty => simp [contests]
  | @grown history mark hbefore hfits ih =>
      obtain ⟨hcount, hleft⟩ := ih fun visit hvisit => hpositive visit (by simp [hvisit])
      rw [contests_grown, gateAfter_grown]
      cases hfiring : mark.firing? with
      | none =>
          have hlost : true ∉ (mark.contest? value).toList := by
            simpa using Visit.Mark.contest?_of_firing?_eq_none hfiring
          rw [List.count_append, List.count_eq_zero.mpr hlost]
          refine ⟨hcount, ?_⟩
          intro hmem
          exact hleft ((List.mem_append.mp hmem).resolve_right hlost)
      | some visit =>
          obtain ⟨thread, loaded, rfl⟩ := Visit.Mark.eq_exchanged_of_firing? hfiring
          have hlater := hfits.last_lt hbefore (hpositive visit (by simp [firings_cons, hfiring]))
          by_cases hvalue : loaded = value
          · -- The value is still in the gate, so no visit that decided on it has fired before.
            have hhere : (gateAfter history).last = value :=
              (of_decide_eq_true hfits.1.symm).trans hvalue
            have hfirst : true ∉ contests value history := by
              intro hmem
              have hless := hleft hmem
              rw [hhere] at hless
              exact Int.lt_irrefl _ hless
            rw [List.count_append, List.count_eq_zero.mpr hfirst]
            refine ⟨by simp [Visit.Mark.contest?, hvalue], ?_⟩
            intro _
            exact hhere ▸ hlater
          · have hnone : (Visit.Mark.exchanged thread visit loaded true).contest? value = none :=
              if_neg hvalue
            rw [hnone, Option.toList_none, List.append_nil]
            refine ⟨hcount, ?_⟩
            intro hmem
            exact Int.lt_trans (hleft hmem) hlater

/-- The first firing after a value was loaded is of a visit that decided on this value. -/
theorem true_mem_contests {start between : List (Visit.Mark Name)}
    (h : Chronicle Visit.Mark.Fits (start ++ between)) (hfirings : firings between ≠ []) :
    true ∈ contests (gateAfter start).last (start ++ between) := by
  induction between using List.reverseRecOn with
  | nil => exact absurd rfl hfirings
  | append_singleton earlier mark ih =>
      obtain ⟨hearlier, hfits⟩ := h.split (List.append_assoc start earlier [mark]).symm
      rw [← List.append_assoc, contests_grown, List.mem_append]
      by_cases hquiet : firings earlier = []
      · right
        have hfiring : mark.firing? ≠ none := by
          intro hnone
          simp [firings_cons, hquiet, hnone] at hfirings
        obtain ⟨visit, hvisit⟩ := Option.ne_none_iff_exists'.mp hfiring
        obtain ⟨thread, loaded, rfl⟩ := Visit.Mark.eq_exchanged_of_firing? hvisit
        have hloaded : (gateAfter start).last = loaded := by
          rw [← gateAfter_append_of_firings_eq_nil hquiet]
          exact of_decide_eq_true hfits.1.symm
        simp [Visit.Mark.contest?, hloaded]
      · left
        exact ih hearlier hquiet

/-- While the intervals are positive, of the visits that decided on the same value and came to
their end exactly one fires. -/
theorem count_contests (h : Chronicle Visit.Mark.Fits history)
    (hpositive : ∀ visit ∈ firings history, 0 < visit.interval) {value : Int64}
    (hcontests : contests value history ≠ []) : (contests value history).count true = 1 := by
  refine Nat.le_antisymm (h.count_contests_le hpositive value).1 (List.count_pos_iff.mpr ?_)
  obtain ⟨fired, hfired⟩ := List.exists_mem_of_ne_nil _ hcontests
  cases fired with
  | true => exact hfired
  | false =>
      obtain ⟨mark, hmark, hcontest⟩ := List.mem_filterMap.mp hfired
      obtain ⟨before, after, hsplit⟩ := List.append_of_mem hmark
      cases mark with
      | shut thread visit loaded => cases hcontest
      | expired thread visit loaded => cases hcontest
      | exchanged thread visit loaded fired =>
          obtain ⟨rfl, rfl⟩ : loaded = value ∧ fired = false := by
            simpa [Visit.Mark.contest?] using hcontest
          obtain ⟨start, between, hbegun, -, hloaded, hfirings⟩ := h.exists_firing_of_lost hsplit
          have hbefore : Chronicle Visit.Mark.Fits
              (start ++ .expired thread visit loaded :: between) := hbegun ▸ (h.split hsplit).1
          have hsome := hbefore.true_mem_contests (by simpa [firings_cons, Visit.Mark.firing?])
          rw [hloaded, ← hbegun] at hsome
          rw [hsplit, contests, List.filterMap_append]
          exact List.mem_append_left _ hsome

end Chronicle

/-- A visit came to its end with this mark. -/
def Visit.Mark.isEnd : Visit.Mark Name → Bool
  | .expired _ _ _ => false
  | _ => true

/-- Once a visit has come to its end, a visit has fired. -/
theorem Chronicle.firings_ne_nil (h : Chronicle Visit.Mark.Fits history) {mark : Visit.Mark Name}
    (hmark : mark ∈ history) (hend : mark.isEnd = true) : firings history ≠ [] := by
  obtain ⟨before, after, hsplit⟩ := List.append_of_mem hmark
  cases mark with
  | expired thread visit loaded => cases hend
  | shut thread visit loaded =>
      obtain ⟨firing, hfiring, -, -⟩ := h.exists_firing_of_shut hsplit
      rw [hsplit, firings_append]
      exact List.append_ne_nil_of_left_ne_nil (List.ne_nil_of_mem hfiring) _
  | exchanged thread visit loaded fired =>
      cases fired with
      | true => exact List.ne_nil_of_mem (mem_firings_of_mem hmark)
      | false =>
          obtain ⟨start, between, hbegun, -, -, hfirings⟩ := h.exists_firing_of_lost hsplit
          rw [hsplit, hbegun, firings_append, firings_append]
          simp [firings_cons, hfirings]

namespace SharedGate

variable [DecidableEq Name]

/-- The visits that fire are visits of the threads. -/
theorem Invariant.mem_of_mem_firings {programs : Name → List Visit} {s : SharedGate Name}
    (hs : s.Invariant programs) {visit : Visit} (h : visit ∈ firings s.history) :
    ∃ name, visit ∈ programs name := by
  obtain ⟨mark, hmark, hfiring⟩ := List.mem_filterMap.mp h
  obtain ⟨thread, loaded, rfl⟩ := Visit.Mark.eq_exchanged_of_firing? hfiring
  obtain ⟨before, after, hsplit, -, start, between, hbegun, -⟩ := hs.chronicle.exists_split hmark
  refine ⟨thread, ?_⟩
  rw [← hs.todo thread]
  refine List.mem_append_left _ (List.mem_filterMap.mpr ⟨.expired thread visit loaded, ?_, rfl⟩)
  simp [hsplit, hbegun, Visit.Mark.thread]

/-- What holds at every moment of every interleaving. -/
structure Throttled (programs : Name → List Visit) (s : SharedGate Name) : Prop where
  /-- Every thread makes the visits of its program in their order. -/
  todo : ∀ name, (s.history.filter (·.thread = name)).filterMap Visit.Mark.begun? ++
    (s.visitors name).todo = programs name
  /-- Every visit loads what the last firing has left, and exchanges it for its own reading when
  it is still there. -/
  chronicle : Chronicle Visit.Mark.Fits s.history
  gate : s.gate = gateAfter s.history
  /-- The reading of each firing is ahead of that of the firing before it by its interval. -/
  spaced : (firings s.history).IsChain fun earlier later : Visit =>
    earlier.reading + later.interval ≤ later.reading
  /-- A visit that found the gate shut has loaded a firing less than its interval before its own
  reading. -/
  shut : ∀ before thread visit loaded after,
    s.history = before ++ .shut thread visit loaded :: after →
      ∃ firing ∈ firings before, loaded = firing.now ∧
        visit.reading - firing.reading < visit.interval
  /-- A visit that did not find what it had loaded has lost to a visit that fired between its
  load and its exchange. -/
  lost : ∀ before thread visit loaded after,
    s.history = before ++ .exchanged thread visit loaded false :: after →
      ∃ start between, before = start ++ .expired thread visit loaded :: between ∧
        (∀ mark ∈ between, mark.thread ≠ thread) ∧ firings between ≠ []
  /-- Once a visit has come to its end, a visit has fired. -/
  fires : ∀ mark ∈ s.history, mark.isEnd = true → firings s.history ≠ []
  /-- While all intervals are positive, of the visits that loaded the same value, or none yet,
  found it expired and came to their end, exactly one fires. -/
  one : (∀ name, ∀ visit ∈ programs name, 0 < visit.interval) → ∀ value,
    contests value s.history ≠ [] → (contests value s.history).count true = 1
  /-- A thread alone makes its next visit as a program without threads does. -/
  solo : ∀ name visit rest, s.visitors name = ⟨none, visit :: rest⟩ →
    ∃ n, (s.run (List.replicate n name)).gate = (s.gate.visit visit.interval visit.reading).2 ∧
      (s.run (List.replicate n name)).visitors = Function.update s.visitors name ⟨none, rest⟩ ∧
      firings (s.run (List.replicate n name)).history = firings s.history ++
        if (s.gate.visit visit.interval visit.reading).1 then [visit] else []

/-- Any number of threads with any visits share a gate that opens once in an interval, however
their turns are interleaved. -/
theorem throttled_run (programs : Name → List Visit) (schedule : List Name) :
    ((begin programs).run schedule).Throttled programs := by
  have hs := invariant_run (invariant_begin programs) schedule
  constructor
  case todo => exact hs.todo
  case chronicle => exact hs.chronicle
  case gate => exact hs.gate
  case spaced => exact hs.chronicle.isChain_firings
  case shut =>
    intro before thread visit loaded after hsplit
    exact hs.chronicle.exists_firing_of_shut hsplit
  case lost =>
    intro before thread visit loaded after hsplit
    obtain ⟨start, between, hbegun, hbetween, -, hfirings⟩ :=
      hs.chronicle.exists_firing_of_lost hsplit
    exact ⟨start, between, hbegun, hbetween, hfirings⟩
  case fires =>
    intro mark hmark hend
    exact hs.chronicle.firings_ne_nil hmark hend
  case one =>
    intro hpositive value hcontests
    refine hs.chronicle.count_contests ?_ hcontests
    intro visit hvisit
    obtain ⟨name, hmem⟩ := hs.mem_of_mem_firings hvisit
    exact hpositive name visit hmem
  case solo =>
    intro name visit rest hvisitor
    exact turns_of_visit hvisitor

end SharedGate

namespace FiringsWitness

/-- Two threads with one visit each, of which the later reading is the first to be exchanged. -/
def programs : Bool → List Visit
  | true => [{ interval := 5, reading := 10 }]
  | false => [{ interval := 5, reading := -3 }]

example : (((SharedGate.begin programs).run [false, true, true, false]).history.map
    Visit.Mark.isEnd, ((SharedGate.begin programs).run [false, true, true, false]).gate) =
      ([false, false, true, true], ⟨10⟩) := by
  decide +kernel

end FiringsWitness

end Logbook
