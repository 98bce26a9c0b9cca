/-
Brackets that meet.  What is read of a text stands as deep in containers as the text does.  A text
that is read as a record ends outside, where it did not end before; so a text in front of which
something was left open is never read.
-/
import Logbook.Proofs.Json.Place
import Logbook.Proofs.Json.Whole
import Logbook.Proofs.RecordWire

namespace Logbook.Json

namespace Context

/-- The number of containers around a place where a value is due. -/
def depth : Context → Nat
  | .root => 0
  | .item _ outer => outer.depth + 1
  | .member _ _ outer => outer.depth + 1

/-- Where a value is due. -/
def place : Context → Place
  | .root => .start
  | .item _ outer => .inside outer.depth
  | .member _ _ outer => .inside outer.depth

end Context

namespace Reading

/-- Where the text stands. -/
def place : Reading → Place
  | .value context => context.place
  | .firstItem outer => .inside outer.depth
  | .afterItem _ outer => .inside outer.depth
  | .firstKey outer => .inside outer.depth
  | .nextKey _ outer => .inside outer.depth
  | .colon _ _ outer => .inside outer.depth
  | .afterMember _ outer => .inside outer.depth
  | .complete _ => .done
  | .surplus _ => .lost
  | .failed _ => .lost

/-- No container can come of it: too much was read, or a value that is no container. -/
def Hopeless : Reading → Prop
  | .complete (.array _ _) => False
  | .complete (.object _ _) => False
  | .complete _ => True
  | .surplus _ => True
  | .failed _ => True
  | _ => False

theorem hopeless_step {reading : Reading} (h : reading.Hopeless) (token : Token) :
    (reading.step token).Hopeless := by
  cases reading with
  | complete tree => trivial
  | surplus tree => trivial
  | failed tree => trivial
  | _ => exact absurd h id

theorem place_put (context : Context) (tree : Tree) :
    (context.put tree).place = Place.close context.depth := by
  cases context <;> rfl

theorem place_stepValue (context : Context) (token : Token) :
    (stepValue context token).Hopeless ∨
      (stepValue context token).place = context.place.take token := by
  cases token with
  | openArray => cases context <;> exact Or.inr rfl
  | openObject => cases context <;> exact Or.inr rfl
  | null => cases context <;> first | exact Or.inr rfl | exact Or.inl trivial
  | boolean b => cases context <;> first | exact Or.inr rfl | exact Or.inl trivial
  | number n => cases context <;> first | exact Or.inr rfl | exact Or.inl trivial
  | string s => cases context <;> first | exact Or.inr rfl | exact Or.inl trivial
  | _ => exact Or.inl trivial

theorem step_firstItem (outer : Context) {token : Token} (h : token ≠ .closeArray) :
    step (.firstItem outer) token = stepValue (.item [] outer) token := by
  cases token with
  | closeArray => exact absurd rfl h
  | _ => rfl

/-- A token takes the place where it takes the reading, unless no container can come of it. -/
theorem place_step (reading : Reading) (token : Token) :
    (reading.step token).Hopeless ∨ (reading.step token).place = reading.place.take token := by
  cases reading with
  | value context => exact place_stepValue context token
  | firstItem outer =>
      by_cases hclose : token = .closeArray
      · rw [hclose]
        exact Or.inr (place_put outer _)
      · rw [step_firstItem outer hclose]
        exact place_stepValue (.item [] outer) token
  | afterItem items outer =>
      cases token with
      | closeArray => exact Or.inr (place_put outer _)
      | comma => exact Or.inr rfl
      | _ => exact Or.inl trivial
  | firstKey outer =>
      cases token with
      | closeObject => exact Or.inr (place_put outer _)
      | string key => exact Or.inr rfl
      | _ => exact Or.inl trivial
  | nextKey members outer =>
      cases token with
      | string key => exact Or.inr rfl
      | _ => exact Or.inl trivial
  | colon members key outer =>
      cases token with
      | colon => exact Or.inr rfl
      | _ => exact Or.inl trivial
  | afterMember members outer =>
      cases token with
      | closeObject => exact Or.inr (place_put outer _)
      | comma => exact Or.inr rfl
      | _ => exact Or.inl trivial
  | complete tree => exact Or.inl trivial
  | surplus tree => exact Or.inl trivial
  | failed tree => exact Or.inl trivial

/-- Tokens take the place where they take the reading, unless no container can come of them. -/
theorem place_foldl (tokens : List Token) (reading : Reading) :
    (tokens.foldl step reading).Hopeless ∨
      (tokens.foldl step reading).place = tokens.foldl Place.take reading.place := by
  induction tokens generalizing reading with
  | nil => exact Or.inr rfl
  | cons token tokens ih =>
      rw [List.foldl_cons, List.foldl_cons]
      rcases place_step reading token with hhopeless | hplace
      · left
        clear ih
        generalize reading.step token = next at hhopeless
        induction tokens generalizing next with
        | nil => exact hhopeless
        | cons token tokens ih => exact ih _ (hopeless_step hhopeless token)
      · rw [← hplace]
        exact ih _

/-- Where reading failed, what was read is not whole. -/
def Honest : Reading → Prop
  | .failed tree => ¬tree.Whole
  | _ => True

end Reading

theorem Context.not_whole_abandon (problem : Problem) (context : Context) {tree : Tree}
    (h : ¬tree.Whole) : ¬(context.abandon problem tree).Whole := by
  induction context generalizing tree with
  | root => exact h
  | item before outer ih => exact ih (by simp [Tree.Whole])
  | member before key outer ih => exact ih (by simp [Tree.Whole])

theorem Context.not_whole_abandonValue (problem : Problem) (context : Context) :
    ¬(context.abandonValue problem).Whole := by
  cases context with
  | root => exact id
  | item before outer => exact outer.not_whole_abandon problem (by simp [Tree.Whole])
  | member before key outer => exact outer.not_whole_abandon problem (by simp [Tree.Whole])

namespace Reading

/-- What was read of a value that is not complete is not whole. -/
theorem not_whole_abandon (problem : Problem) (reading : Reading) (hhonest : reading.Honest)
    (h : ∀ tree, reading ≠ .complete tree ∧ reading ≠ .surplus tree) :
    ¬(reading.abandon problem).Whole := by
  cases reading with
  | value context => exact context.not_whole_abandonValue problem
  | complete tree => exact absurd rfl (h tree).1
  | surplus tree => exact absurd rfl (h tree).2
  | failed tree => exact hhonest
  | firstItem outer => exact outer.not_whole_abandon problem (by simp [Tree.Whole])
  | afterItem items outer => exact outer.not_whole_abandon problem (by simp [Tree.Whole])
  | firstKey outer => exact outer.not_whole_abandon problem (by simp [Tree.Whole])
  | nextKey members outer => exact outer.not_whole_abandon problem (by simp [Tree.Whole])
  | colon members key outer => exact outer.not_whole_abandon problem (by simp [Tree.Whole])
  | afterMember members outer => exact outer.not_whole_abandon problem (by simp [Tree.Whole])

theorem honest_stepValue (context : Context) (token : Token) :
    (stepValue context token).Honest := by
  cases token with
  | closeArray => exact context.not_whole_abandonValue .malformed
  | closeObject => exact context.not_whole_abandonValue .malformed
  | comma => exact context.not_whole_abandonValue .malformed
  | colon => exact context.not_whole_abandonValue .malformed
  | _ => cases context <;> trivial

theorem honest_put (context : Context) (tree : Tree) : (context.put tree).Honest := by
  cases context <;> trivial

/-- Reading fails with something that is not whole. -/
theorem honest_step {reading : Reading} (h : reading.Honest) (token : Token) :
    (reading.step token).Honest := by
  have hfailed : (∀ tree, reading ≠ .complete tree ∧ reading ≠ .surplus tree) →
      Honest (.failed (reading.abandon .malformed)) := not_whole_abandon .malformed reading h
  cases reading with
  | value context => exact honest_stepValue context token
  | firstItem outer =>
      by_cases hclose : token = .closeArray
      · rw [hclose]
        exact honest_put outer _
      · rw [step_firstItem outer hclose]
        exact honest_stepValue (.item [] outer) token
  | complete tree => trivial
  | surplus tree => trivial
  | failed tree => exact h
  | _ => cases token <;> first | trivial | exact honest_put _ _ | exact hfailed (by simp)

theorem honest_foldl (tokens : List Token) {reading : Reading} (h : reading.Honest) :
    (tokens.foldl step reading).Honest := by
  induction tokens generalizing reading with
  | nil => exact h
  | cons token tokens ih => exact ih (honest_step h token)

/-- A text that was read whole, with nothing behind it, was complete when its tokens ended. -/
theorem eq_complete_of_finish {reading : Reading} {stop : Option Stop} (hhonest : reading.Honest)
    (hsurplus : (reading.finish stop).surplus = false)
    (hwhole : (reading.finish stop).root.Whole) :
    reading = .complete (reading.finish stop).root ∧ stop = none := by
  have hnot := fun problem => not_whole_abandon problem reading hhonest
  cases reading with
  | complete tree =>
      cases stop with
      | none => exact ⟨rfl, rfl⟩
      | some stop => simp [finish] at hsurplus
  | surplus tree => simp [finish] at hsurplus
  | failed tree => cases stop <;> exact absurd hwhole hhonest
  | _ =>
      cases stop with
      | none => exact absurd hwhole (hnot .cutShort (by simp))
      | some stop => exact absurd hwhole (hnot (problemAt _ stop) (by simp))

end Reading

/-- A structure is read from a container only. -/
theorem Shape.not_hopeless_of_read {σ α : Type} {shape : Shape σ α} {tree : Tree} {value : α}
    (h : shape.read tree = .ok value) : ¬(Reading.complete tree).Hopeless := by
  cases tree with
  | array items ending => exact id
  | object members ending => exact id
  | _ => exact absurd h (Reader.mismatch_ne_ok _ _ value)

/-- A text that is read as a structure ends behind the last of its brackets. -/
theorem Shape.run_of_ofText {σ α : Type} {shape : Shape σ α}
    (hfields : ∀ field ∈ shape.fields, field.Thorough) {text : String} {value : α}
    (h : Reader.ofText shape.read text = .ok value) : Place.start.run text.toList = .done := by
  unfold Reader.ofText at h
  obtain ⟨read, hread, hreturn⟩ := exists_of_bind_eq_ok h
  split at hreturn
  case isTrue => simp at hreturn
  case isFalse hsurplus =>
    have hwhole := Shape.thorough_read hfields hread
    have hcontainer := Shape.not_hopeless_of_read hread
    have hsurplus : (Document.ofText text).surplus = false := Bool.eq_false_iff.mpr hsurplus
    have hstart : (Reading.value .root).Honest := trivial
    have hsettled : Place.start.Settled := trivial
    have hhonest := Reading.honest_foldl (lex text.toList).list hstart
    obtain ⟨hcomplete, hstop⟩ := Reading.eq_complete_of_finish hhonest hsurplus hwhole
    rw [Place.run_of_lex text.toList hstop hsettled]
    rcases Reading.place_foldl (lex text.toList).list (.value .root) with hhopeless | hplace
    · rw [hcomplete] at hhopeless
      exact absurd hhopeless hcontainer
    · rw [hcomplete] at hplace
      exact hplace.symm

end Logbook.Json

namespace Logbook

open Json

/-- A text that is read as a record ends behind the last of its brackets. -/
theorem Record.run_of_ofJson {text : String} {record : Record}
    (h : Record.ofJson text = .ok record) : Place.start.run text.toList = .done :=
  Shape.run_of_ofText Record.thorough_fields h

/-- A written record ends behind the last of its brackets. -/
theorem Record.run_json (record : Record) : Place.start.run record.json.toList = .done := by
  have hread : Record.ofJson (String.ofList [] ++ record.json ++ String.ofList []) = .ok record :=
    record.ofJson_json (by simp) (by simp)
  simpa using Record.run_of_ofJson hread

theorem Record.json_eq (record : Record) :
    ∃ tail, record.json.toList = '\x7b' :: '"' :: 'h' :: tail := by
  rw [Record.json, Value.text, String.toList_ofList]
  exact ⟨_, rfl⟩

/-- Behind anything but blanks, a written record leaves something open or goes wrong. -/
theorem Record.run_json_ne_done (record : Record) {place : Place} (h : place ≠ .start) :
    place.run record.json.toList ≠ .done := by
  obtain ⟨tail, hjson⟩ := record.json_eq
  cases place with
  | start => exact absurd rfl h
  | inside depth =>
      have hlost : Place.start.run record.json.toList ≠ .lost := by
        rw [record.run_json]
        simp
      have hwithin := Place.run_within depth hlost
      rw [record.run_json] at hwithin
      change (Place.inside depth).run record.json.toList = .inside depth at hwithin
      rw [hwithin]
      simp
  | quoted depth =>
      rw [hjson]
      change Place.lost.run tail ≠ .done
      simp [Place.run_lost]
  | escaped depth =>
      rw [hjson]
      change Place.lost.run _ ≠ .done
      simp [Place.run_lost]
  | done =>
      rw [hjson]
      change Place.lost.run _ ≠ .done
      simp [Place.run_lost]
  | lost => simp [Place.run_lost]

/-- A record behind anything but blanks is never read. -/
theorem Record.ofJson_behind (record : Record) {front : List Char}
    (hfront : Place.start.run front ≠ .start) (read : Record) :
    Record.ofJson (String.ofList (front ++ record.json.toList)) ≠ .ok read := by
  intro h
  have hrun := Record.run_of_ofJson h
  rw [String.toList_ofList, Place.run_append] at hrun
  exact record.run_json_ne_done hfront hrun

end Logbook
