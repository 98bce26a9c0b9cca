/-
Whole trees.  A tree is whole when every container in it was closed and every value in it was
read.  A typed reader takes only whole trees, also where it passes over members it does not know;
so a text that stops being JSON is refused, whatever could be read of it.
-/
import Logbook.Json.Shape
import Logbook.Proofs.Except
import Logbook.Record.Wire

namespace Logbook.Json

namespace Tree

mutual

/-- Every container is closed and every value was read. -/
def Whole : Tree → Prop
  | .array items ending => WholeItems items ∧ ending = .closed
  | .object members ending => WholeMembers members ∧ ending = .closed
  | .broken _ => False
  | _ => True

def WholeItems : List Tree → Prop
  | [] => True
  | tree :: rest => Whole tree ∧ WholeItems rest

def WholeMembers : List (StringText × Tree) → Prop
  | [] => True
  | (_, tree) :: rest => Whole tree ∧ WholeMembers rest

end

theorem closed_of_skipEnding {ending : Ending} (h : skipEnding ending = .ok ()) :
    ending = .closed := by
  cases ending with
  | closed => rfl
  | broken problem afterComma => simp [skipEnding] at h

mutual

/-- Only a whole tree is passed over. -/
theorem whole_of_skip : ∀ {tree : Tree}, tree.skip = .ok () → tree.Whole
  | .null, _ => trivial
  | .boolean _, _ => trivial
  | .number _, _ => trivial
  | .string _, _ => trivial
  | .array items ending, h => by
      rw [skip] at h
      obtain ⟨_, hitems, hending⟩ := exists_of_bind_eq_ok h
      exact ⟨whole_of_skipItems hitems, closed_of_skipEnding hending⟩
  | .object members ending, h => by
      rw [skip] at h
      obtain ⟨_, hmembers, hending⟩ := exists_of_bind_eq_ok h
      exact ⟨whole_of_skipMembers hmembers, closed_of_skipEnding hending⟩
  | .broken problem, h => by simp [skip] at h

theorem whole_of_skipItems : ∀ {items : List Tree}, skipItems items = .ok () → WholeItems items
  | [], _ => trivial
  | tree :: rest, h => by
      rw [skipItems] at h
      obtain ⟨_, htree, hrest⟩ := exists_of_bind_eq_ok h
      exact ⟨whole_of_skip htree, whole_of_skipItems hrest⟩

theorem whole_of_skipMembers : ∀ {members : List (StringText × Tree)},
    skipMembers members = .ok () → WholeMembers members
  | [], _ => trivial
  | (_, tree) :: rest, h => by
      rw [skipMembers] at h
      obtain ⟨_, htree, hrest⟩ := exists_of_bind_eq_ok h
      exact ⟨whole_of_skip htree, whole_of_skipMembers hrest⟩

end

mutual

/-- Every whole tree is passed over. -/
theorem Whole.skip : ∀ {tree : Tree}, tree.Whole → tree.skip = .ok ()
  | .null, _ => rfl
  | .boolean _, _ => rfl
  | .number _, _ => rfl
  | .string _, _ => rfl
  | .array items ending, h => by
      obtain ⟨hitems, rfl⟩ := h
      rw [Tree.skip, hitems.skipItems]
      rfl
  | .object members ending, h => by
      obtain ⟨hmembers, rfl⟩ := h
      rw [Tree.skip, hmembers.skipMembers]
      rfl
  | .broken _, h => h.elim

theorem WholeItems.skipItems : ∀ {items : List Tree}, WholeItems items → skipItems items = .ok ()
  | [], _ => rfl
  | tree :: items, h => by
      rw [Tree.skipItems, Whole.skip h.1, WholeItems.skipItems h.2]
      rfl

theorem WholeMembers.skipMembers : ∀ {members : List (StringText × Tree)},
    WholeMembers members → skipMembers members = .ok ()
  | [], _ => rfl
  | (key, tree) :: members, h => by
      rw [Tree.skipMembers, Whole.skip h.1, WholeMembers.skipMembers h.2]
      rfl

end

theorem wholeMembers_iff {members : List (StringText × Tree)} :
    WholeMembers members ↔ ∀ member ∈ members, member.2.Whole := by
  induction members with
  | nil => simp [WholeMembers]
  | cons member members ih => simp [WholeMembers, ih]

theorem wholeItems_iff {items : List Tree} : WholeItems items ↔ ∀ tree ∈ items, tree.Whole := by
  induction items with
  | nil => simp [WholeItems]
  | cons tree items ih => simp [WholeItems, ih]

end Tree

/-- A reader that takes only whole trees. -/
def Reader.Thorough {α : Type} (reader : Reader α) : Prop :=
  ∀ {tree value}, reader tree = .ok value → tree.Whole

namespace Reader

variable {α : Type}

theorem mismatch_ne_ok (expected : String) (tree : Tree) (value : α) :
    mismatch expected tree ≠ .ok value := by
  intro h
  obtain ⟨found, -, hfound⟩ := exists_of_bind_eq_ok h
  simp at hfound

theorem thorough_unsigned (limit : Nat) (expected : String) :
    Thorough (unsigned limit expected) := by
  intro tree value h
  cases tree with
  | number n => trivial
  | _ => exact absurd h (mismatch_ne_ok expected _ value)

theorem thorough_word : Thorough word := by
  intro tree value h
  obtain ⟨n, hread, -⟩ := exists_of_map_eq_ok h
  exact thorough_unsigned _ _ hread

theorem thorough_long : Thorough long := by
  intro tree value h
  cases tree with
  | number n => trivial
  | _ => exact absurd h (mismatch_ne_ok "i64" _ value)

theorem thorough_text : Thorough text := by
  intro tree value h
  cases tree with
  | string s => trivial
  | _ => exact absurd h (mismatch_ne_ok "a string" _ value)

theorem thorough_levelOrdinal : Thorough levelOrdinal := by
  intro tree value h
  obtain ⟨n, hread, -⟩ := exists_of_bind_eq_ok h
  exact thorough_unsigned _ _ hread

end Reader

/-- A field that is read from whole trees only. -/
def Field.Thorough {σ : Type} (field : Field σ) : Prop :=
  ∀ {tree parts parts'}, field.read tree parts = .ok parts' → tree.Whole

theorem Field.thorough_of {σ α : Type} (name : String) (get : σ → Option α)
    (set : σ → Option α → σ) {reader : Reader α} (h : reader.Thorough) :
    (Field.of name get set reader).Thorough := by
  intro tree parts parts' hread
  obtain ⟨value, hvalue, -⟩ := exists_of_map_eq_ok hread
  exact h hvalue

namespace Shape

variable {σ α : Type} {shape : Shape σ α}

theorem whole_of_takeMember (hfields : ∀ field ∈ shape.fields, field.Thorough) {parts parts' : σ}
    {member : StringText × Tree} (h : shape.takeMember parts member = .ok parts') :
    member.2.Whole := by
  unfold takeMember at h
  obtain ⟨key, -, hvalue⟩ := exists_of_bind_eq_ok h
  split at hvalue
  case h_1 field hfind =>
    split at hvalue
    case isTrue => simp at hvalue
    case isFalse => exact hfields field (List.mem_of_find?_eq_some hfind) hvalue
  case h_2 =>
    obtain ⟨_, hskip, -⟩ := exists_of_bind_eq_ok hvalue
    exact Tree.whole_of_skip hskip

theorem whole_of_foldlM (hfields : ∀ field ∈ shape.fields, field.Thorough)
    (members : List (StringText × Tree)) (parts : σ) {parts' : σ}
    (h : members.foldlM shape.takeMember parts = .ok parts') : Tree.WholeMembers members := by
  induction members generalizing parts with
  | nil => trivial
  | cons member members ih =>
      rw [List.foldlM_cons] at h
      obtain ⟨parts₁, htake, hrest⟩ := exists_of_bind_eq_ok h
      exact ⟨whole_of_takeMember hfields htake, ih parts₁ hrest⟩

theorem whole_of_takeItems (fields : List (Field σ)) (hfields : ∀ field ∈ fields, field.Thorough)
    (items : List Tree) (ending : Ending) (parts : σ) {parts' : σ}
    (h : takeItems ending fields items parts = .ok parts') :
    Tree.WholeItems items ∧ ending = .closed := by
  induction fields generalizing items parts with
  | nil =>
      cases items with
      | nil => cases ending <;> simp_all [takeItems, Tree.WholeItems]
      | cons tree items => simp [takeItems] at h
  | cons field fields ih =>
      cases items with
      | nil => cases ending <;> simp_all [takeItems, Tree.WholeItems]
      | cons tree items =>
          rw [takeItems] at h
          obtain ⟨parts₁, hread, htake⟩ := exists_of_bind_eq_ok h
          have hlater : ∀ later ∈ fields, later.Thorough :=
            fun later hmem => hfields later (List.mem_cons_of_mem field hmem)
          obtain ⟨hitems, hending⟩ := ih hlater items parts₁ htake
          exact ⟨⟨hfields field List.mem_cons_self hread, hitems⟩, hending⟩

/-- A structure is read from whole trees only. -/
theorem thorough_read (hfields : ∀ field ∈ shape.fields, field.Thorough) :
    Reader.Thorough shape.read := by
  intro tree value h
  cases tree with
  | object members ending =>
      rw [read] at h
      obtain ⟨parts, htake, hbuild⟩ := exists_of_bind_eq_ok h
      cases ending with
      | closed => exact ⟨whole_of_foldlM hfields members _ htake, rfl⟩
      | broken problem afterComma => simp at hbuild
  | array items ending =>
      rw [read] at h
      obtain ⟨parts, htake, -⟩ := exists_of_bind_eq_ok h
      exact whole_of_takeItems shape.fields hfields items ending _ htake
  | _ => exact absurd h (Reader.mismatch_ne_ok _ _ value)

end Shape

end Logbook.Json

namespace Logbook

open Json

theorem Stamp.thorough_read : Reader.Thorough Stamp.shape.read := by
  apply Shape.thorough_read
  intro field hfield
  simp only [Stamp.shape, List.mem_cons, List.not_mem_nil, or_false] at hfield
  rcases hfield with rfl | rfl
  · exact Field.thorough_of _ _ _ Reader.thorough_long
  · exact Field.thorough_of _ _ _ Reader.thorough_word

theorem Header.thorough_read : Reader.Thorough Header.shape.read := by
  apply Shape.thorough_read
  intro field hfield
  simp only [Header.shape, List.mem_cons, List.not_mem_nil, or_false] at hfield
  rcases hfield with rfl | rfl | rfl
  · exact Field.thorough_of _ _ _ Stamp.thorough_read
  · exact Field.thorough_of _ _ _ Reader.thorough_word
  · exact Field.thorough_of _ _ _ Reader.thorough_text

/-- Every field of a record is read from whole trees only. -/
theorem Record.thorough_fields : ∀ field ∈ Record.shape.fields, field.Thorough := by
  intro field hfield
  simp only [Record.shape, List.mem_cons, List.not_mem_nil, or_false] at hfield
  rcases hfield with rfl | rfl | rfl | rfl
  · exact Field.thorough_of _ _ _ Header.thorough_read
  · exact Field.thorough_of _ _ _ Reader.thorough_levelOrdinal
  · exact Field.thorough_of _ _ _ Reader.thorough_text
  · exact Field.thorough_of _ _ _ Reader.thorough_text

end Logbook
