/-
Calls to a shared object.  A call begins, takes effect at one moment, and ends with an answer; in
between, other calls may do the same.  Of an object that behaves as a sequential one, the calls
that took effect can be put in an order in which the sequential object gives the same answers,
and a call that ended before another one began stands before it.

When every call takes effect between its beginning and its end, with the answer that the object
of this moment gives, the order of the effects is such an order.  Main statement:
`Chronicle.linearization`.
-/
import Logbook.Proofs.Chronicle
import Mathlib.Data.List.Nodup

namespace Logbook

/-- What a call does at one moment. -/
inductive Moment (Ticket Request Answer : Type) where
  | began (ticket : Ticket) (request : Request)
  | took (ticket : Ticket) (request : Request) (answer : Answer)
  | ended (ticket : Ticket) (answer : Answer)

/-- A call that took effect, and its answer. -/
structure Served (Ticket Request Answer : Type) where
  ticket : Ticket
  request : Request
  answer : Answer

variable {Ticket Request Answer State : Type}

namespace Moment

def ticket : Moment Ticket Request Answer → Ticket
  | .began ticket _ => ticket
  | .took ticket _ _ => ticket
  | .ended ticket _ => ticket

def isEnd : Moment Ticket Request Answer → Bool
  | .ended _ _ => true
  | _ => false

def served? : Moment Ticket Request Answer → Option (Served Ticket Request Answer)
  | .took ticket request answer => some ⟨ticket, request, answer⟩
  | _ => none

theorem eq_took_of_served? {moment : Moment Ticket Request Answer}
    {served : Served Ticket Request Answer} (h : moment.served? = some served) :
    moment = .took served.ticket served.request served.answer := by
  cases moment with
  | began ticket request => cases h
  | ended ticket answer => cases h
  | took ticket request answer =>
      obtain rfl := Option.some.inj h
      rfl

end Moment

/-- The calls that took effect, in the order in which they did. -/
def effects (moments : List (Moment Ticket Request Answer)) :
    List (Served Ticket Request Answer) :=
  moments.filterMap Moment.served?

@[simp] theorem effects_append (before after : List (Moment Ticket Request Answer)) :
    effects (before ++ after) = effects before ++ effects after :=
  List.filterMap_append

@[simp] theorem effects_grown (moments : List (Moment Ticket Request Answer))
    (moment : Moment Ticket Request Answer) :
    effects (moments ++ [moment]) = effects moments ++ moment.served?.toList :=
  filterMap_grown _ _ _

theorem mem_effects {moments : List (Moment Ticket Request Answer)}
    {served : Served Ticket Request Answer} :
    served ∈ effects moments ↔ .took served.ticket served.request served.answer ∈ moments := by
  constructor
  · intro h
    obtain ⟨moment, hmem, hserved⟩ := List.mem_filterMap.mp h
    rwa [Moment.eq_took_of_served? hserved] at hmem
  · intro h
    exact List.mem_filterMap.mpr ⟨_, h, rfl⟩

section

variable (serve : State → Request → Answer × State)

/-- The answers of a sequential object to requests in order, and the object after them. -/
def serveAll : State → List Request → List Answer × State
  | state, [] => ([], state)
  | state, request :: rest =>
      let (answer, state) := serve state request
      let (answers, state) := serveAll state rest
      (answer :: answers, state)

theorem serveAll_append (state : State) (before after : List Request) :
    serveAll serve state (before ++ after) =
      ((serveAll serve state before).1 ++
          (serveAll serve (serveAll serve state before).2 after).1,
        (serveAll serve (serveAll serve state before).2 after).2) := by
  induction before generalizing state with
  | nil => rfl
  | cons request rest ih => simp [serveAll, ih]

/-- The object after the calls that took effect. -/
def stateAfter (start : State) (moments : List (Moment Ticket Request Answer)) : State :=
  (serveAll serve start ((effects moments).map Served.request)).2

theorem stateAfter_grown (start : State) (moments : List (Moment Ticket Request Answer))
    (moment : Moment Ticket Request Answer) :
    stateAfter serve start (moments ++ [moment]) =
      match moment with
      | .took _ request _ => (serve (stateAfter serve start moments) request).2
      | _ => stateAfter serve start moments := by
  rw [stateAfter, effects_grown, List.map_append, serveAll_append]
  cases moment <;> rfl

/-- What a moment of a call says about the moments before it. -/
def Moment.Fits (start : State) (moments : List (Moment Ticket Request Answer)) :
    Moment Ticket Request Answer → Prop
  | .began ticket _ => ∀ moment ∈ moments, moment.ticket ≠ ticket
  | .took ticket request answer =>
      .began ticket request ∈ moments ∧
        (∀ other answer', .took ticket other answer' ∉ moments) ∧
        answer = (serve (stateAfter serve start moments) request).1
  | .ended ticket answer => ∃ request, .took ticket request answer ∈ moments

/-- An order of calls as a sequential object could have served them. -/
structure Linearization (start : State) (moments : List (Moment Ticket Request Answer))
    (order : List (Served Ticket Request Answer)) : Prop where
  /-- No call is served twice. -/
  once : (order.map Served.ticket).Nodup
  /-- Only calls that began are served. -/
  began : ∀ served ∈ order, .began served.ticket served.request ∈ moments
  /-- Calls that ended are served, with the answer that they ended with. -/
  ended : ∀ ticket answer, .ended ticket answer ∈ moments →
    ∃ served ∈ order, served.ticket = ticket ∧ served.answer = answer
  /-- The answers are those that the sequential object gives. -/
  answers : (serveAll serve start (order.map Served.request)).1 = order.map Served.answer
  /-- A call that ended before another one began is served before it. -/
  realTime : ∀ first ∈ order, ∀ second ∈ order, ∀ answer request,
    List.Sublist [.ended first.ticket answer, .began second.ticket request] moments →
      List.Sublist [first, second] order

end

namespace Chronicle

variable {serve : State → Request → Answer × State} {start : State}
  {moments : List (Moment Ticket Request Answer)}

theorem nodup_effects (h : Chronicle (Moment.Fits serve start) moments) :
    ((effects moments).map Served.ticket).Nodup := by
  induction h with
  | empty => exact List.nodup_nil
  | @grown moments moment hbefore hfits ih =>
      rw [effects_grown, List.map_append]
      cases moment with
      | began ticket request => simpa [Moment.served?] using ih
      | ended ticket answer => simpa [Moment.served?] using ih
      | took ticket request answer =>
          obtain ⟨-, hfirst, -⟩ := hfits
          rw [List.nodup_append]
          refine ⟨ih, by simp [Moment.served?], ?_⟩
          intro other hother ticket' hticket hsame
          obtain ⟨served, hserved, rfl⟩ := List.mem_map.mp hother
          obtain rfl : ticket' = ticket := by simpa [Moment.served?] using hticket
          exact hfirst served.request served.answer (hsame ▸ mem_effects.mp hserved)

theorem answers_effects (h : Chronicle (Moment.Fits serve start) moments) :
    (serveAll serve start ((effects moments).map Served.request)).1 =
      (effects moments).map Served.answer := by
  induction h with
  | empty => rfl
  | @grown moments moment hbefore hfits ih =>
      rw [effects_grown, List.map_append, List.map_append, serveAll_append, ih]
      cases moment with
      | began ticket request => rfl
      | ended ticket answer => rfl
      | took ticket request answer =>
          obtain ⟨-, -, rfl⟩ := hfits
          rfl

/-- A call that ended before another one began took effect before it. -/
theorem realTime_effects (h : Chronicle (Moment.Fits serve start) moments)
    {first second : Served Ticket Request Answer} (hfirst : first ∈ effects moments)
    (hsecond : second ∈ effects moments) {answer : Answer} {request : Request}
    (horder : List.Sublist [.ended first.ticket answer, .began second.ticket request] moments) :
    List.Sublist [first, second] (effects moments) := by
  obtain ⟨before, after, hsplit, hended, hbegan⟩ := List.cons_sublist_iff.mp horder
  rw [List.singleton_sublist] at hbegan
  have heffects : effects moments = effects before ++ effects after := by
    rw [hsplit, effects_append]
  have hearly : first ∈ effects before := by
    obtain ⟨earlier, later, hbefore⟩ := List.append_of_mem hended
    have hmoments : moments = earlier ++ .ended first.ticket answer :: (later ++ after) := by
      simp [hsplit, hbefore]
    obtain ⟨request', htook⟩ := (h.split hmoments).2
    have hmem : ⟨first.ticket, request', answer⟩ ∈ effects before := by
      rw [hbefore]
      exact mem_effects.mpr (List.mem_append_left _ htook)
    -- A call takes effect once, so this is the effect that the answer comes from.
    have hsame : first = ⟨first.ticket, request', answer⟩ := by
      refine List.inj_on_of_nodup_map h.nodup_effects hfirst ?_ rfl
      rw [heffects]
      exact List.mem_append_left _ hmem
    rwa [hsame]
  have hlate : second ∈ effects after := by
    obtain ⟨earlier, later, hafter⟩ := List.append_of_mem hbegan
    have hmoments : moments = before ++ earlier ++ .began second.ticket request :: later := by
      simp [hsplit, hafter]
    have hfresh := (h.split hmoments).2
    rw [heffects] at hsecond
    refine (List.mem_append.mp hsecond).resolve_left ?_
    intro htook
    exact hfresh _ (List.mem_append_left _ (mem_effects.mp htook)) rfl
  rw [heffects]
  exact (List.singleton_sublist.mpr hearly).append (List.singleton_sublist.mpr hlate)

/-- Calls that take effect between their beginning and their end, with the answers of the object
at this moment, are served in the order in which they take effect. -/
theorem linearization (h : Chronicle (Moment.Fits serve start) moments) :
    Linearization serve start moments (effects moments) where
  once := h.nodup_effects
  began served hserved := by
    obtain ⟨before, after, hsplit, hbegan, -, -⟩ := h.exists_split (mem_effects.mp hserved)
    rw [hsplit]
    exact List.mem_append_left _ hbegan
  ended ticket answer hended := by
    obtain ⟨before, after, hsplit, request, htook⟩ := h.exists_split hended
    refine ⟨⟨ticket, request, answer⟩, mem_effects.mpr ?_, rfl, rfl⟩
    rw [hsplit]
    exact List.mem_append_left _ htook
  answers := h.answers_effects
  realTime first hfirst second hsecond answer request horder :=
    h.realTime_effects hfirst hsecond horder

end Chronicle

/-- How far a caller has come with a call. -/
inductive Standing (Request Answer : Type) where
  /-- It has not begun with the call. -/
  | idle
  /-- The call has begun, and has not taken effect. -/
  | pending (request : Request)
  /-- The call took effect, and has not ended. -/
  | answered (answer : Answer)

namespace Standing

/-- A call begins, takes effect and ends, one after the other. -/
inductive Moves (ticket : Ticket) : Standing Request Answer →
    Option (Moment Ticket Request Answer) → Standing Request Answer → Prop where
  | began (request : Request) :
      Moves ticket .idle (some (.began ticket request)) (.pending request)
  | took (request : Request) (answer : Answer) :
      Moves ticket (.pending request) (some (.took ticket request answer)) (.answered answer)
  | ended (answer : Answer) : Moves ticket (.answered answer) (some (.ended ticket answer)) .idle
  | quiet (standing : Standing Request Answer) : Moves ticket standing none standing

/-- What there is in a history of a call that has come so far. -/
def Told (moments : List (Moment Ticket Request Answer)) (ticket : Ticket) :
    Standing Request Answer → Prop
  | .idle => ∀ moment ∈ moments, moment.ticket ≠ ticket
  | .pending request =>
      .began ticket request ∈ moments ∧ ∀ other answer, .took ticket other answer ∉ moments
  | .answered answer => ∃ request, .took ticket request answer ∈ moments

/-- The moments of other calls do not matter. -/
theorem Told.append_of_ne {moments : List (Moment Ticket Request Answer)}
    {moment : Moment Ticket Request Answer} {ticket : Ticket}
    {standing : Standing Request Answer} (h : standing.Told moments ticket)
    (hticket : moment.ticket ≠ ticket) : standing.Told (moments ++ [moment]) ticket := by
  cases standing with
  | idle =>
      intro other hother
      rcases List.mem_append.mp hother with hmem | hmem
      · exact h other hmem
      · rwa [List.mem_singleton.mp hmem]
  | pending request =>
      refine ⟨List.mem_append_left _ h.1, ?_⟩
      intro other answer hmem
      rcases List.mem_append.mp hmem with hmem | hmem
      · exact h.2 other answer hmem
      · rw [← List.mem_singleton.mp hmem] at hticket
        exact hticket rfl
  | answered answer =>
      obtain ⟨request, hmem⟩ := h
      exact ⟨request, List.mem_append_left _ hmem⟩

end Standing

section

variable {Caller : Type} (serve : State → Request → Answer × State) (start : State)

/-- A history of calls by callers, each of which makes one call after the other: how many it has
ended, and how far it has come with the next. -/
structure Calls (moments : List (Moment (Caller × Nat) Request Answer)) (ended : Caller → Nat)
    (standing : Caller → Standing Request Answer) : Prop where
  chronicle : Chronicle (Moment.Fits serve start) moments
  le_ended : ∀ moment ∈ moments, moment.ticket.2 ≤ ended moment.ticket.1
  told : ∀ caller, (standing caller).Told moments (caller, ended caller)

variable {serve start} {moments : List (Moment (Caller × Nat) Request Answer)}
  {ended ended' : Caller → Nat} {standing standing' : Caller → Standing Request Answer}
  {caller : Caller}

/-- What a moment says about the history is true when its call has come so far, and it takes
effect with the right answer. -/
theorem Standing.Moves.fits {moment : Moment (Caller × Nat) Request Answer}
    {before after : Standing Request Answer} {ticket : Caller × Nat}
    (h : Standing.Moves ticket before (some moment) after) (htold : before.Told moments ticket)
    (hanswer : ∀ request answer, moment = .took ticket request answer →
      answer = (serve (stateAfter serve start moments) request).1) :
    moment.Fits serve start moments := by
  cases h with
  | began request => exact htold
  | took request answer => exact ⟨htold.1, htold.2, hanswer request answer rfl⟩
  | ended answer => exact htold

theorem Standing.Moves.eq_of_none {before after : Standing Request Answer} {ticket : Ticket}
    (h : Standing.Moves ticket before none after) : before = after := by
  cases h
  rfl

theorem Standing.Moves.ticket_eq {moment : Moment Ticket Request Answer}
    {before after : Standing Request Answer} {ticket : Ticket}
    (h : Standing.Moves ticket before (some moment) after) : moment.ticket = ticket := by
  cases h <;> rfl

/-- A caller that goes on has come as far as the history tells, with the next call when it has
ended one. -/
theorem Standing.Moves.told {n : Nat} {moment : Moment (Caller × Nat) Request Answer}
    {before after : Standing Request Answer}
    (h : Standing.Moves (caller, n) before (some moment) after)
    (htold : before.Told moments (caller, n))
    (hle : ∀ earlier ∈ moments, earlier.ticket.1 = caller → earlier.ticket.2 ≤ n) :
    after.Told (moments ++ [moment]) (caller, n + moment.isEnd.toNat) := by
  cases h with
  | began request =>
      refine ⟨List.mem_append_right _ (List.mem_singleton_self _), ?_⟩
      intro other answer hmem
      rcases List.mem_append.mp hmem with hmem | hmem
      · exact htold _ hmem rfl
      · cases List.mem_singleton.mp hmem
  | took request answer =>
      exact ⟨request, List.mem_append_right _ (List.mem_singleton_self _)⟩
  | ended answer =>
      intro earlier hearlier hticket
      rcases List.mem_append.mp hearlier with hmem | hmem
      · have hbound := hle earlier hmem (congrArg Prod.fst hticket)
        have hnumber : earlier.ticket.2 = n + 1 := congrArg Prod.snd hticket
        omega
      · rw [List.mem_singleton.mp hmem] at hticket
        simpa [Moment.ticket, Moment.isEnd] using congrArg Prod.snd hticket

/-- Callers go on one at a time. -/
theorem Calls.step (h : Calls serve start moments ended standing)
    {moment : Option (Moment (Caller × Nat) Request Answer)}
    (hmoves : Standing.Moves (caller, ended caller) (standing caller) moment (standing' caller))
    (hanswer : ∀ request answer, moment = some (.took (caller, ended caller) request answer) →
      answer = (serve (stateAfter serve start moments) request).1)
    (hended : ended' caller = ended caller + (moment.any Moment.isEnd).toNat)
    (hothers : ∀ other, other ≠ caller →
      ended' other = ended other ∧ standing' other = standing other) :
    Calls serve start (moments ++ moment.toList) ended' standing' := by
  have hmono : ∀ other, ended other ≤ ended' other := by
    intro other
    by_cases hother : other = caller
    · rw [hother, hended]
      exact Nat.le_add_right _ _
    · exact Nat.le_of_eq (hothers other hother).1.symm
  cases moment with
  | none =>
      rw [Option.toList_none, List.append_nil]
      refine ⟨h.chronicle, fun earlier hmem => Nat.le_trans (h.le_ended earlier hmem) (hmono _), ?_⟩
      intro other
      by_cases hother : other = caller
      · rw [hother, hended, ← hmoves.eq_of_none]
        exact h.told caller
      · rw [(hothers other hother).1, (hothers other hother).2]
        exact h.told other
  | some moment =>
      have hticket := hmoves.ticket_eq
      refine ⟨h.chronicle.grown ?_, ?_, ?_⟩
      · refine hmoves.fits (h.told caller) ?_
        intro request answer heq
        exact hanswer request answer (congrArg some heq)
      · intro earlier hearlier
        rcases List.mem_append.mp hearlier with hmem | hmem
        · exact Nat.le_trans (h.le_ended earlier hmem) (hmono _)
        · rw [List.mem_singleton.mp hmem, hticket]
          exact hmono caller
      · intro other
        by_cases hother : other = caller
        · rw [hother, hended]
          refine hmoves.told (h.told caller) ?_
          rintro earlier hmem rfl
          exact h.le_ended earlier hmem
        · rw [(hothers other hother).1, (hothers other hother).2]
          refine (h.told other).append_of_ne ?_
          rw [hticket]
          exact fun hsame => hother (congrArg Prod.fst hsame).symm

end

end Logbook
