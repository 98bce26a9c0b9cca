/-
Stretches of a history in which a transport stays switched on.  Between its number and its call to
the transport a record is pending, for as long as its line is printed.  In a stretch in which no
line is cut off, the calls to the transport are those of the records that were numbered in it, one
behind the other, except that one record may be pending at either end.  Main statement:
`Stretched.turned`.
-/
import Logbook.Proofs.Threads.Order

namespace Logbook

variable {Name C T World : Type}

/-- The record that is pending behind a mark. -/
def Mark.pending (before : Option Record) : Mark Name T → Option Record
  | .numbered _ _ record => some record
  | .printed _ _ false => none
  | .entered _ _ _ => none
  | .unsent _ _ => none
  | _ => before

/-- The record that has a number and was not given to a transport yet. -/
def pendingIn (history : List (Mark Name T)) : Option Record :=
  history.foldl Mark.pending none

@[simp] theorem pendingIn_grown (history : List (Mark Name T)) (mark : Mark Name T) :
    pendingIn (history ++ [mark]) = mark.pending (pendingIn history) := by
  simp [pendingIn]

/-- The record that the thread inside has still to give to a transport. -/
def ungiven : Option (Name × Phase T) → Option Record
  | some (_, .printing record) => some record
  | some (_, .sending record) => some record
  | _ => none

/-- A transport is switched on throughout a part of a history, and no line is cut off in it. -/
structure Steady (start : Logger C T) (transport : T) (before after : List (Mark Name T)) :
    Prop where
  route : ∀ part, part <+: after → (replay start (before ++ part)).route = some transport
  whole : ∀ mark ∈ after, mark.isTorn = false

theorem Steady.of_grown {start : Logger C T} {transport : T} {before after : List (Mark Name T)}
    {mark : Mark Name T} (h : Steady start transport before (after ++ [mark])) :
    Steady start transport before after where
  route part hpart := h.route part (hpart.trans (List.prefix_append _ _))
  whole earlier hearlier := h.whole earlier (List.mem_append_left _ hearlier)

namespace Happens

variable {logger : Logger C T} {mark : Mark Name T} {inside inside' : Option (Name × Phase T)}
  {history : List (Mark Name T)}

theorem pending_step (h : Happens logger inside mark inside')
    (ih : pendingIn history = ungiven inside) : pendingIn (history ++ [mark]) = ungiven inside' := by
  rw [pendingIn_grown, ih]
  cases h <;> simp [Mark.pending, ungiven]

/-- Calls to transports are made with the records in the order of their numbers. -/
theorem given_step (h : Happens logger inside mark inside')
    (hpending : pendingIn history = ungiven inside)
    (ih : ((invocations history).map Prod.snd ++ (pendingIn history).toList).Sublist
      ((numberings history).map Numbered.record)) :
    ((invocations (history ++ [mark])).map Prod.snd ++
        (pendingIn (history ++ [mark])).toList).Sublist
      ((numberings (history ++ [mark])).map Numbered.record) := by
  rw [pendingIn_grown, invocations_grown, numberings_grown]
  cases h with
  | numbered name call stamp =>
      have hsent := (List.sublist_append_left _ _).trans ih
      simpa [Mark.numbered?, Mark.invocation?, Mark.pending] using hsent
  | torn name record =>
      have hsent := (List.sublist_append_left _ _).trans ih
      simpa [Mark.numbered?, Mark.invocation?, Mark.pending] using hsent
  | unsent name record hroute =>
      have hsent := (List.sublist_append_left _ _).trans ih
      simpa [Mark.numbered?, Mark.invocation?, Mark.pending] using hsent
  | entered name record transport hroute =>
      simpa [Mark.numbered?, Mark.invocation?, Mark.pending, hpending, ungiven] using ih
  | _ => simpa [Mark.numbered?, Mark.invocation?, Mark.pending] using ih

/-- In a steady stretch all records that are numbered go to the transport. -/
theorem steady_step (h : Happens logger inside mark inside') {start : Logger C T} {transport : T}
    {before after : List (Mark Name T)} (hlogger : logger = replay start (before ++ after))
    (hpending : pendingIn (before ++ after) = ungiven inside)
    (hsteady : Steady start transport before (after ++ [mark]))
    (ih : ((pendingIn before).toList ++ (numberings after).map Numbered.record).map
        (transport, ·) =
      invocations after ++ (pendingIn (before ++ after)).toList.map (transport, ·)) :
    ((pendingIn before).toList ++ (numberings (after ++ [mark])).map Numbered.record).map
        (transport, ·) =
      invocations (after ++ [mark]) ++
        (pendingIn (before ++ after ++ [mark])).toList.map (transport, ·) := by
  have hroute : logger.route = some transport := by
    rw [hlogger]
    exact hsteady.route after (List.prefix_append _ _)
  rw [pendingIn_grown, numberings_grown, invocations_grown]
  rw [List.map_append] at ih
  cases h with
  | numbered name call stamp =>
      have hnone : pendingIn (before ++ after) = none := hpending
      simp only [Mark.numbered?, Mark.pending, Option.toList_some, List.map_append]
      rw [← List.append_assoc, ih, hnone]
      simp [Mark.invocation?]
  | torn name record =>
      have hwhole := hsteady.whole (.printed name record false) (by simp)
      simp [Mark.isTorn] at hwhole
  | unsent name record hnone => simp [hroute] at hnone
  | entered name record other hother =>
      obtain rfl : transport = other := Option.some_inj.mp (hroute.symm.trans hother)
      have hsome : pendingIn (before ++ after) = some record := hpending
      simpa [Mark.numbered?, Mark.invocation?, Mark.pending, hsome] using ih
  | _ => simpa [Mark.numbered?, Mark.invocation?, Mark.pending] using ih

end Happens

namespace Shared

/-- What every step keeps of the stretches of a history. -/
structure Stretched (start : Logger C T) (s : Shared Name C T World) : Prop where
  pending : pendingIn s.history = ungiven s.inside
  given : ∀ before, before <+: s.history →
    ((invocations before).map Prod.snd ++ (pendingIn before).toList).Sublist
      ((numberings before).map Numbered.record)
  steady : ∀ transport before after, s.history = before ++ after →
    Steady start transport before after →
      ((pendingIn before).toList ++ (numberings after).map Numbered.record).map (transport, ·) =
        invocations after ++ (pendingIn s.history).toList.map (transport, ·)

theorem stretched_begin (programs : Name → List (Task T)) (start : Logger C T) (world : World) :
    (begin programs start world).Stretched start where
  pending := rfl
  given before hbefore := by
    obtain rfl := List.prefix_nil.mp hbefore
    exact List.Sublist.slnil
  steady transport before after hsplit _ := by
    obtain ⟨rfl, rfl⟩ := List.append_eq_nil_iff.mp hsplit.symm
    rfl

variable [DecidableEq Name]

theorem Stretched.turned {start : Logger C T} {s s' : Shared Name C T World} {mark : Mark Name T}
    (hs : s.Stretched start) (hlogger : s.logger = replay start s.history)
    (h : Turned s mark s') : s'.Stretched start where
  pending := by
    rw [h.history]
    exact h.happens.pending_step hs.pending
  given before hbefore := by
    rw [h.history] at hbefore
    rcases List.prefix_concat_iff.mp hbefore with rfl | hearlier
    · exact h.happens.given_step hs.pending (hs.given s.history (List.prefix_refl _))
    · exact hs.given before hearlier
  steady transport before after hsplit hsteady := by
    rw [h.history] at hsplit ⊢
    rcases List.eq_nil_or_concat after with rfl | ⟨earlier, last, rfl⟩
    · -- The stretch is empty, and what is pending before it is pending behind it.
      rw [← hsplit.trans (List.append_nil before)]
      simp [invocations, numberings]
    · rw [List.concat_eq_append] at hsplit hsteady ⊢
      obtain ⟨hhistory, hlast⟩ := List.append_inj' (hsplit.trans (List.append_assoc _ _ _).symm) rfl
      obtain rfl : mark = last := List.singleton_inj.mp hlast
      rw [hhistory]
      exact h.happens.steady_step (hhistory ▸ hlogger) (hhistory ▸ hs.pending) hsteady
        (hhistory ▸ hs.steady transport before earlier hhistory hsteady.of_grown)

/-- What every turn keeps of a logger, whatever its outlets do at that turn. -/
structure Sound (programs : Name → List (Task T)) (start : Logger C T)
    (s : Shared Name C T World) : Prop where
  invariant : s.Invariant programs start
  stretched : s.Stretched start

theorem Sound.turn {programs : Name → List (Task T)} {start : Logger C T}
    {s : Shared Name C T World} (hs : s.Sound programs start) (outlets : Outlets C T World)
    (name : Name) (stamp : Stamp) : (s.turn outlets name stamp).Sound programs start := by
  rcases turned_turn outlets hs.invariant.exclusive name stamp with hwasted | ⟨mark, hturned⟩
  · rwa [hwasted]
  · exact ⟨hturned.invariant hs.invariant, hs.stretched.turned hs.invariant.logger hturned⟩

end Shared

end Logbook
