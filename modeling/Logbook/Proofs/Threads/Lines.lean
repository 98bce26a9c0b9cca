/-
Threads that do nothing but call a logger whose transport is switched on.  The transport is given
the records whose line has come to its end, in the order of their numbers, and of all the records
with a number only those are left out whose line was cut off by a fault of the console.  Main
statement: `Calling.turned`.
-/
import Logbook.Proofs.Threads.Order

namespace Logbook

variable {Name C T World : Type}

/-- The record whose line came to its end, or that has no line since the console is switched off. -/
def Mark.unbroken? : Mark Name T → Option Record
  | .printed _ record true => some record
  | .unprinted _ record => some record
  | _ => none

/-- The record whose line was cut off. -/
def Mark.broken? : Mark Name T → Option Record
  | .printed _ record false => some record
  | _ => none

/-- The records whose line came to its end, in order. -/
def unbroken (history : List (Mark Name T)) : List Record :=
  history.filterMap Mark.unbroken?

/-- The records whose line was cut off, in order. -/
def broken (history : List (Mark Name T)) : List Record :=
  history.filterMap Mark.broken?

/-- The record whose line the thread inside has still to print. -/
def lineDue : Option (Name × Phase T) → List Record
  | some (_, .printing record) => [record]
  | _ => []

/-- The record with which the thread inside has still to call the transport. -/
def handoverDue : Option (Name × Phase T) → List Record
  | some (_, .sending record) => [record]
  | _ => []

/-- The record with which the thread inside is in the transport. -/
def carried : Option (Name × Phase T) → List Record
  | some (_, .delivering _ record) => [record]
  | _ => []

@[simp] theorem unbroken_grown (history : List (Mark Name T)) (mark : Mark Name T) :
    unbroken (history ++ [mark]) = unbroken history ++ mark.unbroken?.toList :=
  filterMap_grown _ _ _

@[simp] theorem broken_grown (history : List (Mark Name T)) (mark : Mark Name T) :
    broken (history ++ [mark]) = broken history ++ mark.broken?.toList :=
  filterMap_grown _ _ _

namespace Happens

variable {logger : Logger C T} {mark : Mark Name T} {inside inside' : Option (Name × Phase T)}
  {history : List (Mark Name T)}

/-- Lines are printed in the order of the numbers. -/
theorem lines_step (h : Happens logger inside mark inside')
    (ih : (unbroken history ++ lineDue inside).Sublist
      ((numberings history).map Numbered.record)) :
    (unbroken (history ++ [mark]) ++ lineDue inside').Sublist
      ((numberings (history ++ [mark])).map Numbered.record) := by
  rw [unbroken_grown, numberings_grown]
  cases h with
  | torn name record =>
      have hlines := (List.sublist_append_left _ _).trans ih
      simpa [Mark.unbroken?, Mark.numbered?, lineDue] using hlines
  | _ => simpa [Mark.unbroken?, Mark.numbered?, lineDue] using ih

/-- A record with a number has its line, or its line was cut off, or is due. -/
theorem missing_step (h : Happens logger inside mark inside')
    (ih : (unbroken history ++ broken history ++ lineDue inside).Perm
      ((numberings history).map Numbered.record)) :
    (unbroken (history ++ [mark]) ++ broken (history ++ [mark]) ++ lineDue inside').Perm
      ((numberings (history ++ [mark])).map Numbered.record) := by
  rw [unbroken_grown, broken_grown, numberings_grown]
  -- The record whose line was printed moves across those whose line was cut off.
  have hprinted : ∀ record, (unbroken history ++ [record] ++ broken history).Perm
      (unbroken history ++ broken history ++ [record]) := by
    intro record
    rw [List.append_assoc, List.append_assoc]
    exact List.perm_append_comm.append_left _
  cases h with
  | numbered name call stamp =>
      have hgrown := ih.append_right [(logger.number stamp call).1]
      simpa [Mark.unbroken?, Mark.broken?, Mark.numbered?, lineDue] using hgrown
  | printed name record =>
      have hmoved := (hprinted record).trans ih
      simpa [Mark.unbroken?, Mark.broken?, Mark.numbered?, lineDue] using hmoved
  | unprinted name record =>
      have hmoved := (hprinted record).trans ih
      simpa [Mark.unbroken?, Mark.broken?, Mark.numbered?, lineDue] using hmoved
  | _ => simpa [Mark.unbroken?, Mark.broken?, Mark.numbered?, lineDue] using ih

/-- Unless a setting is changed, only the counter moves. -/
theorem counted_step (h : Happens logger inside mark inside')
    (hinside : ∀ name setting, inside ≠ some (name, .changing setting)) :
    mark.replay logger = { logger with nextSeq := (mark.replay logger).nextSeq } := by
  cases h with
  | changed name setting => exact absurd rfl (hinside name setting)
  | _ => rfl

/-- Behind its line a record goes to the transport that is switched on. -/
theorem sent_step (h : Happens logger inside mark inside') {transport : T}
    (hroute : logger.route = some transport)
    (ih : unbroken history = (invocations history).map Prod.snd ++ handoverDue inside) :
    unbroken (history ++ [mark]) =
      (invocations (history ++ [mark])).map Prod.snd ++ handoverDue inside' := by
  rw [unbroken_grown, invocations_grown, ih]
  cases h with
  | unsent name record hnone => simp [hroute] at hnone
  | _ => simp [Mark.unbroken?, Mark.invocation?, handoverDue]

/-- Until a transport comes to its end, the thread inside carries the record it was called with. -/
theorem carried_step (h : Happens logger inside mark inside') (hmark : mark.isLeft = false)
    {done : List Record} (ih : done ++ carried inside = (invocations history).map Prod.snd) :
    done ++ carried inside' = (invocations (history ++ [mark])).map Prod.snd := by
  rw [invocations_grown, List.map_append, ← ih]
  cases h with
  | left name transport record returned => simp [Mark.isLeft] at hmark
  | _ => simp [Mark.invocation?, carried]

end Happens

namespace Shared

/-- What every turn keeps of threads that do nothing but call a logger. -/
structure Calling (start : Logger C T) (transport : T) (s : Shared Name C T World) : Prop where
  todo : ∀ name task, task ∈ (s.threads name).todo → ∃ call, task = .log call
  unchanging : ∀ name setting, s.inside ≠ some (name, .changing setting)
  logger : s.logger = { start with nextSeq := s.logger.nextSeq }
  target : ∀ name other record, s.inside = some (name, .delivering other record) →
    other = transport
  lines : (unbroken s.history ++ lineDue s.inside).Sublist
    ((numberings s.history).map Numbered.record)
  missing : (unbroken s.history ++ broken s.history ++ lineDue s.inside).Perm
    ((numberings s.history).map Numbered.record)
  sent : unbroken s.history = (invocations s.history).map Prod.snd ++ handoverDue s.inside

variable {start : Logger C T} {transport : T} {s s' : Shared Name C T World} {mark : Mark Name T}

theorem calling_begin (calls : Name → List Call) (start : Logger C T) (transport : T)
    (world : World) :
    (begin (fun name => (calls name).map .log) start world).Calling start transport where
  todo name task htask := by
    obtain ⟨call, -, rfl⟩ := List.mem_map.mp htask
    exact ⟨call, rfl⟩
  unchanging _ _ := nofun
  logger := rfl
  target _ _ _ := nofun
  lines := List.Sublist.slnil
  missing := .nil
  sent := rfl

theorem Calling.route (hs : s.Calling start transport) : s.logger.route = start.route := by
  rw [hs.logger]
  rfl

/-- When no line was cut off, all records with a number have their line, but for one that is
due. -/
theorem Calling.whole (hs : s.Calling start transport) (hbroken : broken s.history = []) :
    unbroken s.history ++ lineDue s.inside = (numberings s.history).map Numbered.record := by
  have hlength := hs.missing
  rw [hbroken, List.append_nil] at hlength
  exact hs.lines.eq_of_length hlength.length_eq

variable [DecidableEq Name]

/-- Only a thread inside a transport can come back from one. -/
theorem Turned.isLeft_eq_false {outlets : Outlets C T World} (hs : s.Exclusive) {name : Name}
    {stamp : Stamp} (h : Turned s mark (s.turn outlets name stamp))
    (hphase : ∀ transport record, (s.threads name).phase ≠ .delivering transport record) :
    mark.isLeft = false := by
  have happens := h.happens
  generalize hbefore : s.inside = inside at happens
  generalize hbehind : (s.turn outlets name stamp).inside = inside' at happens
  cases happens with
  | left other transport record returned =>
      -- The thread that comes back has moved, so it is the one whose turn it is.
      have hthere := (inside_eq_delivering_iff hs).mp hbefore
      have hne : other ≠ name := by
        rintro rfl
        exact hphase transport record hthere
      rw [← threads_turn_of_ne outlets s hne stamp,
        ← inside_eq_delivering_iff h.exclusive, hbehind] at hthere
      simp at hthere
  | _ => rfl

theorem Calling.turned (hs : s.Calling start transport) (hroute : start.route = some transport)
    (h : Turned s mark s') : s'.Calling start transport where
  todo name task htask := by
    refine hs.todo name task ?_
    rw [← h.todo name]
    exact List.mem_append_right _ htask
  unchanging name setting hinside := by
    have happens := h.happens
    have htodo := h.todo name
    rw [hinside] at happens
    generalize hbefore : s.inside = before at happens
    cases happens with
    | checked name call => exact hs.unchanging _ _ hbefore
    | lockedSetting name setting =>
        obtain ⟨call, hcall⟩ := hs.todo name (.set setting) (by
          rw [← htodo]
          simp [Mark.taken?])
        cases hcall
  logger := by
    rw [h.logger, h.happens.counted_step hs.unchanging, hs.logger]
  target name other record hinside := by
    have happens := h.happens
    rw [hinside] at happens
    generalize hbefore : s.inside = before at happens
    cases happens with
    | checked name call => exact hs.target _ _ _ hbefore
    | entered name record other hother =>
        rw [hs.route, hroute] at hother
        exact (Option.some_inj.mp hother).symm
  lines := by
    rw [h.history]
    exact h.happens.lines_step hs.lines
  missing := by
    rw [h.history]
    exact h.happens.missing_step hs.missing
  sent := by
    rw [h.history]
    exact h.happens.sent_step (hs.route.trans hroute) hs.sent

end Shared

end Logbook
