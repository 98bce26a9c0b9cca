/-
How settings are written in JSON.  A value without parts can be told from what it was read as, and
an object in which no name comes twice has the members of the table that it was read as.  Main
statement: `exists_spells`.
-/
import Logbook.Proofs.Json.Fields
import Logbook.Settings.Source

namespace Logbook

namespace Json

/-- No number that is read as negative is zero. -/
theorem NumberText.ne_zero_of_value {t : NumberText} {n : Nat}
    (h : t.value = .ok (.negative n)) : n ≠ 0 := by
  have hreal : ∀ reading : Except Error Binary, reading.map Number.real ≠ .ok (.negative n) := by
    rintro (problem | x) <;> simp [Except.map]
  simp only [value] at h
  split at h
  · split at h
    · exact absurd h (hreal _)
    · split at h
      · simp at h
      · split at h
        · exact absurd h (hreal _)
        · rename_i hword
          simp only [Except.ok.injEq, Number.negative.injEq] at h
          omega
  · exact absurd h (hreal _)
  · exact absurd h (hreal _)

/-- The members of an object. -/
def Tree.members : Tree → List (StringText × Tree)
  | .object members _ => members
  | _ => []

/-- No name comes twice in the object, nor in those in which the sections of these names stand, one
in the other. -/
def Single : List String → Tree → Prop
  | [], tree => (tree.members.map fun member => member.1.toOption).Nodup
  | first :: rest, tree => (tree.members.map fun member => member.1.toOption).Nodup ∧
      ∀ member ∈ tree.members, member.1 = .ok first.toList → Single rest member.2

theorem Single.nodup {sections : List String} {tree : Tree} (h : Single sections tree) :
    (tree.members.map fun member => member.1.toOption).Nodup := by
  cases sections with
  | nil => exact h
  | cons first rest => exact h.1

theorem Single.of_get? {first : String} {rest : List String} {members : Members Tree} {tree : Tree}
    (h : Single (first :: rest) (.object (spelled members) .closed))
    (hfound : members.get? first = some tree) : Single rest tree :=
  h.2 (.ok first.toList, tree) (List.mem_map.mpr ⟨_, Members.mem_of_get? hfound, rfl⟩) rfl

end Json

namespace Settings

open Json

variable {origin : Origin}

mutual

/-- What is read as a node is JSON, so it can be passed over. -/
theorem skip_of_ofJson? : ∀ (room : Nat) (tree : Tree) {node : Node},
    Node.ofJson? origin room tree = some node → tree.skip = .ok ()
  | _, .null, _, _ => rfl
  | _, .boolean b, _, _ => rfl
  | _, .number n, _, _ => rfl
  | _, .string s, _, _ => rfl
  | room, .array items .closed, node, h => by
      rw [Node.ofJson?] at h
      split at h
      · simp at h
      · obtain ⟨nodes, hnodes, rfl⟩ := Option.map_eq_some_iff.mp h
        simp [Tree.skip, skip_of_ofJsonItems? _ items hnodes, Tree.skipEnding, bind, Except.bind]
  | room, .object members .closed, node, h => by
      rw [Node.ofJson?] at h
      split at h
      · simp at h
      · obtain ⟨list, hlist, rfl⟩ := Option.map_eq_some_iff.mp h
        simp [Tree.skip, skip_of_ofJsonMembers? _ members hlist, Tree.skipEnding, bind,
          Except.bind]
  | _, .array items (.broken problem afterComma), _, h => by simp [Node.ofJson?] at h
  | _, .object members (.broken problem afterComma), _, h => by simp [Node.ofJson?] at h
  | _, .broken problem, _, h => by simp [Node.ofJson?] at h

theorem skip_of_ofJsonItems? : ∀ (room : Nat) (trees : List Tree) {nodes : List Node},
    Node.ofJsonItems? origin room trees = some nodes → Tree.skipItems trees = .ok ()
  | _, [], _, _ => rfl
  | room, tree :: rest, nodes, h => by
      simp only [Node.ofJsonItems?, Option.bind_eq_bind, Option.bind_eq_some_iff] at h
      obtain ⟨node, hnode, more, hmore, -⟩ := h
      simp [Tree.skipItems, skip_of_ofJson? room tree hnode, skip_of_ofJsonItems? room rest hmore,
        bind, Except.bind]

theorem skip_of_ofJsonMembers? : ∀ (room : Nat) (members : List (StringText × Tree))
    {list : List (String × Node)}, Node.ofJsonMembers? origin room members = some list →
      Tree.skipMembers members = .ok ()
  | _, [], _, _ => rfl
  | room, (key, tree) :: rest, list, h => by
      simp only [Node.ofJsonMembers?, Option.bind_eq_bind, Option.bind_eq_some_iff] at h
      obtain ⟨name, -, node, hnode, more, hmore, -⟩ := h
      simp [Tree.skipMembers, skip_of_ofJson? room tree hnode,
        skip_of_ofJsonMembers? room rest hmore, bind, Except.bind]

end

variable {room : Nat}

/-- How a value without parts is written. -/
inductive Written : Tree → Leaf → Prop
  | null : Written .null .null
  | boolean (b : Bool) : Written (.boolean b) (.boolean b)
  | number {t : NumberText} {value : Number} {leaf : Leaf} (read : t.value = .ok value)
      (same : Node.leafOfNumber value = leaf) : Written (.number t) leaf
  | text (s : String) : Written (.string (.ok s.toList)) (.text s)

theorem written_of_ofJson? {tree : Tree} {origin' : Origin} {leaf : Leaf}
    (h : Node.ofJson? origin room tree = some (.leaf origin' leaf)) : Written tree leaf := by
  cases tree with
  | null =>
      obtain ⟨-, rfl⟩ := Node.leaf.inj (Option.some.inj h)
      exact .null
  | boolean b =>
      obtain ⟨-, rfl⟩ := Node.leaf.inj (Option.some.inj h)
      exact .boolean b
  | number t =>
      obtain ⟨value, hvalue, hnode⟩ := Option.map_eq_some_iff.mp h
      exact .number (toOption_eq_some_iff.mp hvalue) (Node.leaf.inj hnode).2
  | string read =>
      obtain ⟨chars, hchars, hnode⟩ := Option.map_eq_some_iff.mp h
      obtain ⟨-, rfl⟩ := Node.leaf.inj hnode
      have hwritten := Written.text (String.ofList chars)
      rwa [String.toList_ofList, ← toOption_eq_some_iff.mp hchars] at hwritten
  | array items ending => cases ending <;> simp [Node.ofJson?] at h
  | object members ending => cases ending <;> simp [Node.ofJson?] at h
  | broken problem => simp [Node.ofJson?] at h

theorem leafOfNumber_ne (value : Number) :
    (∀ s, Node.leafOfNumber value ≠ .text s) ∧ ∀ b, Node.leafOfNumber value ≠ .boolean b := by
  cases value with
  | natural n =>
      rw [Node.leafOfNumber]
      split <;> simp
  | negative n => simp [Node.leafOfNumber]
  | real x => simp [Node.leafOfNumber]

theorem Written.eq_string {tree : Tree} {s : String} (h : Written tree (.text s)) :
    tree = .string (.ok s.toList) := by
  cases h with
  | number read same => exact absurd same ((leafOfNumber_ne _).1 s)
  | text s => rfl

theorem Written.eq_boolean {tree : Tree} {b : Bool} (h : Written tree (.boolean b)) :
    tree = .boolean b := by
  cases h with
  | number read same => exact absurd same ((leafOfNumber_ne _).2 b)
  | boolean b => rfl

/-- A natural number is written without a sign. -/
theorem Written.eq_number {tree : Tree} {n : Nat} (h : Written tree (.integer n)) :
    ∃ t, tree = .number t ∧ t.value = .ok (.natural n) := by
  cases h with
  | @number t value leaf read same =>
      refine ⟨t, rfl, ?_⟩
      cases value with
      | natural k =>
          simp only [Node.leafOfNumber] at same
          split at same
          · obtain rfl := Int.ofNat.inj (Leaf.integer.inj same)
            exact read
          · simp at same
      | negative k =>
          have hzero : -(k : Int) = n := Leaf.integer.inj same
          exact absurd (by omega) (NumberText.ne_zero_of_value read)
      | real x => simp [Node.leafOfNumber] at same

/-- The members of an object, all of them JSON and no name twice, and of the table that it is read
as. -/
structure Spells (origin : Origin) (room : Nat) (members : Members Tree) (nodes : Members Node) :
    Prop where
  distinct : (members.map Prod.fst).Nodup
  skip : ∀ member ∈ members, member.2.skip = .ok ()
  found : ∀ name, Option.Rel (fun tree node => Node.ofJson? origin room tree = some node)
    (members.get? name) (nodes.get? name)

theorem exists_spelled {list : List (StringText × Tree)} {nodes : Members Node}
    (h : Node.ofJsonMembers? origin room list = some nodes) :
    ∃ members, list = spelled members ∧ members.map Prod.fst = nodes.map Prod.fst ∧
      (∀ member ∈ members, member.2.skip = .ok ()) ∧
      ∀ name, Option.Rel (fun tree node => Node.ofJson? origin room tree = some node)
        (members.get? name) (nodes.get? name) := by
  induction list generalizing nodes with
  | nil =>
      obtain rfl := Option.some.inj h
      exact ⟨[], rfl, rfl, by simp, fun name => .none⟩
  | cons member rest ih =>
      obtain ⟨read, tree⟩ := member
      simp only [Node.ofJsonMembers?, Option.bind_eq_bind, Option.bind_eq_some_iff] at h
      obtain ⟨chars, hread, node, hnode, more, hmore, hnodes⟩ := h
      obtain rfl := toOption_eq_some_iff.mp hread
      obtain rfl := Option.some.inj hnodes
      obtain ⟨members, rfl, hnames, hskip, hfound⟩ := ih hmore
      refine ⟨(String.ofList chars, tree) :: members, by simp [spelled], by simp [hnames],
        List.forall_mem_cons.mpr ⟨skip_of_ofJson? room tree hnode, hskip⟩, ?_⟩
      intro name
      simp only [Members.get?]
      split
      · exact .some hnode
      · exact hfound name

theorem exists_spells {tree : Tree} {origin' : Origin} {nodes : Members Node}
    (h : Node.ofJson? origin room tree = some (.table origin' nodes))
    {sections : List String} (hsingle : Single sections tree) :
    ∃ members, tree = .object (spelled members) .closed ∧
      Spells origin (room - 1) members nodes := by
  cases tree with
  | object list ending =>
      cases ending with
      | broken problem afterComma => simp [Node.ofJson?] at h
      | closed =>
          rw [Node.ofJson?] at h
          split at h
          · simp at h
          · obtain ⟨pairs, hpairs, htable⟩ := Option.map_eq_some_iff.mp h
            obtain ⟨-, rfl⟩ := Node.table.inj htable
            obtain ⟨members, rfl, hnames, hskip, hfound⟩ := exists_spelled hpairs
            have hdistinct : (members.map Prod.fst).Nodup := by
              apply List.Nodup.of_map fun name => some name.toList
              simpa [Tree.members, spelled, Function.comp_def, Except.toOption] using hsingle.nodup
            rw [Members.ofList_eq_self (hnames ▸ hdistinct)]
            exact ⟨members, rfl, hdistinct, hskip, hfound⟩
  | array items ending => cases ending <;> simp [Node.ofJson?] at h
  | _ => simp [Node.ofJson?] at h

end Settings

end Logbook
