/-
Objects that are read field by field.  Fields that have nothing to do with each other may be read
in any order, so an object in which no name comes twice is read as if its members stood in the
order of the fields.  Main statement: `Shape.toOption_read_object`.
-/
import Logbook.Json.Shape
import Logbook.Proofs.Except
import Logbook.Proofs.Members
import Mathlib.Data.List.Pairwise

namespace Logbook

namespace Json

variable {σ : Type}

/-- The members of an object whose names are texts. -/
def spelled (members : Members Tree) : List (StringText × Tree) :=
  members.map fun member => (.ok member.1.toList, member.2)

/-- Two fields that may be read in either order. -/
structure Field.Apart (field other : Field σ) : Prop where
  name : field.name ≠ other.name
  commute : ∀ tree tree' parts,
    (field.read tree parts >>= other.read tree').toOption =
      (other.read tree' parts >>= field.read tree).toOption
  isSet : ∀ tree parts parts', field.read tree parts = .ok parts' →
    other.isSet parts' = other.isSet parts
  isSet_left : ∀ tree parts parts', other.read tree parts = .ok parts' →
    field.isSet parts' = field.isSet parts

theorem Field.apart_of {α β : Type} {name name' : String} (hname : name ≠ name')
    {get : σ → Option α} {set : σ → Option α → σ} (reader : Reader α) {get' : σ → Option β}
    {set' : σ → Option β → σ} (reader' : Reader β)
    (hget : ∀ parts value, get' (set parts value) = get' parts)
    (hget' : ∀ parts value, get (set' parts value) = get parts)
    (hset : ∀ parts value value', set' (set parts value) value' = set (set' parts value') value) :
    (Field.of name get set reader).Apart (.of name' get' set' reader') where
  name := hname
  commute tree tree' parts := by
    cases hread : reader tree <;> cases hread' : reader' tree' <;>
      simp [Field.of, hread, hread', hset, bind, Except.bind, Except.map, Except.toOption]
  isSet tree parts parts' h := by
    obtain ⟨value, -, rfl⟩ := exists_of_map_eq_ok h
    simp [Field.of, hget]
  isSet_left tree parts parts' h := by
    obtain ⟨value, -, rfl⟩ := exists_of_map_eq_ok h
    simp [Field.of, hget']

instance : Std.Symm (@Field.Apart σ) where
  symm _ _ h := ⟨h.name.symm, fun tree tree' parts => (h.commute tree' tree parts).symm,
    h.isSet_left, h.isSet⟩

/-- Reads a field from the member of its name, if there is one. -/
def readField (members : Members Tree) (field : Field σ) (parts : σ) : Except Error σ :=
  match members.get? field.name with
  | some tree => field.read tree parts
  | none => .ok parts

/-- Reads one field after the other. -/
def readFields (members : Members Tree) : List (Field σ) → σ → Except Error σ
  | [], parts => .ok parts
  | field :: rest, parts => readField members field parts >>= readFields members rest

theorem readFields_congr {members members' : Members Tree} {fields : List (Field σ)}
    (h : ∀ field ∈ fields, members.get? field.name = members'.get? field.name) (parts : σ) :
    readFields members fields parts = readFields members' fields parts := by
  induction fields generalizing parts with
  | nil => rfl
  | cons field rest ih =>
      obtain ⟨hfirst, hrest⟩ := List.forall_mem_cons.mp h
      rw [readFields, readFields, readField, readField, hfirst, funext (ih hrest)]

theorem readFields_nil (fields : List (Field σ)) (parts : σ) :
    readFields [] fields parts = .ok parts := by
  induction fields with
  | nil => rfl
  | cons field rest ih => exact ih

/-- The field of the first member may be read first. -/
theorem readFields_cons {fields : List (Field σ)} (hfields : fields.Pairwise Field.Apart)
    {field : Field σ} (hfield : field ∈ fields) {members : Members Tree}
    (hnew : members.get? field.name = none) (tree : Tree) (parts : σ) :
    (readFields ((field.name, tree) :: members) fields parts).toOption =
      (field.read tree parts >>= readFields members fields).toOption := by
  induction fields generalizing parts with
  | nil => simp at hfield
  | cons first rest ih =>
      obtain ⟨hapart, hrest⟩ := List.pairwise_cons.mp hfields
      rcases List.mem_cons.mp hfield with rfl | hmem
      · have hsame : ∀ other ∈ rest,
            Members.get? ((field.name, tree) :: members) other.name = members.get? other.name :=
          fun other hother => by simp [Members.get?, (hapart other hother).name]
        have hown : readFields members (field :: rest) = readFields members rest := by
          funext parts
          rw [readFields, readField, hnew]
          rfl
        rw [hown, readFields, funext (readFields_congr hsame), readField, Members.get?, if_pos rfl]
      · have hne : field.name ≠ first.name := fun h => (hapart field hmem).name h.symm
        have hsame : readField ((field.name, tree) :: members) first parts =
            readField members first parts := by
          simp only [readField, Members.get?, if_neg hne]
        have hcommute : (readField members first parts >>= field.read tree).toOption =
            (field.read tree parts >>= readField members first).toOption := by
          unfold readField
          cases members.get? first.name with
          | none => exact congrArg Except.toOption (bind_pure (field.read tree parts)).symm
          | some own => exact (hapart field hmem).commute own tree parts
        rw [readFields, hsame, toOption_bind_congr_right _ (ih hrest hmem), ← bind_assoc,
          toOption_bind_congr hcommute, bind_assoc]
        rfl

namespace Shape

variable {α : Type} {shape : Shape σ α}

theorem takeMember_unknown {name : String} (h : ∀ field ∈ shape.fields, field.name ≠ name)
    {tree : Tree} (hskip : tree.skip = .ok ()) (parts : σ) :
    shape.takeMember parts (.ok name.toList, tree) = .ok parts := by
  have hfind : shape.fields.find? (·.name == name) = none := by simpa using h
  simp [takeMember, hfind, hskip, bind, Except.bind]

theorem takeMember_known (hfields : shape.fields.Pairwise Field.Apart) {field : Field σ}
    (hfield : field ∈ shape.fields) {parts : σ} (hunset : field.isSet parts = false)
    (tree : Tree) :
    shape.takeMember parts (.ok field.name.toList, tree) = field.read tree parts := by
  have hfind : shape.fields.find? (·.name == field.name) = some field := by
    generalize shape.fields = fields at hfields hfield
    induction fields with
    | nil => simp at hfield
    | cons first rest ih =>
        obtain ⟨hapart, hrest⟩ := List.pairwise_cons.mp hfields
        rcases List.mem_cons.mp hfield with rfl | hmem
        · simp
        · rw [List.find?_cons_of_neg (by simpa using (hapart field hmem).name), ih hrest hmem]
  simp [takeMember, hfind, hunset, bind, Except.bind]

/-- The members may come in any order, and among others. -/
theorem toOption_foldlM (hfields : shape.fields.Pairwise Field.Apart) {members : Members Tree}
    (hdistinct : (members.map Prod.fst).Nodup) (hskip : ∀ member ∈ members, member.2.skip = .ok ())
    {parts : σ}
    (hunset : ∀ field ∈ shape.fields, members.get? field.name ≠ none →
      field.isSet parts = false) :
    ((spelled members).foldlM shape.takeMember parts).toOption =
      (readFields members shape.fields parts).toOption := by
  induction members generalizing parts with
  | nil => rw [readFields_nil]; rfl
  | cons member rest ih =>
      obtain ⟨name, tree⟩ := member
      obtain ⟨hnew, hrest⟩ : name ∉ rest.map Prod.fst ∧ (rest.map Prod.fst).Nodup :=
        List.nodup_cons.mp hdistinct
      obtain ⟨htree, hothers⟩ := List.forall_mem_cons.mp hskip
      have hnone := Members.get?_eq_none_iff.mpr hnew
      rw [spelled, List.map_cons, List.foldlM_cons]
      by_cases hknown : ∃ field ∈ shape.fields, field.name = name
      · obtain ⟨field, hfield, rfl⟩ := hknown
        have hfree := hunset field hfield (by simp [Members.get?])
        rw [takeMember_known hfields hfield hfree, readFields_cons hfields hfield hnone]
        cases hread : field.read tree parts with
        | error problem => rfl
        | ok parts' =>
            refine ih hrest hothers fun other hother hfound => ?_
            have hname : field.name ≠ other.name := fun heq => hfound (heq ▸ hnone)
            have hapart := hfields.forall hfield hother
              fun heq => hname (congrArg Field.name heq)
            rw [hapart.isSet tree parts parts' hread]
            exact hunset other hother (by rwa [Members.get?, if_neg hname])
      · have hunknown : ∀ field ∈ shape.fields, field.name ≠ name :=
          fun field hfield heq => hknown ⟨field, hfield, heq⟩
        have hsame : ∀ field ∈ shape.fields,
            Members.get? ((name, tree) :: rest) field.name = Members.get? rest field.name :=
          fun field hfield => by simp [Members.get?, (hunknown field hfield).symm]
        rw [takeMember_unknown hunknown htree, readFields_congr hsame]
        exact ih hrest hothers fun field hfield hne =>
          hunset field hfield (by rwa [hsame field hfield])

/-- An object is read member by member. -/
theorem read_object {members : List (StringText × Tree)} {parts : σ} {value : α}
    (htake : members.foldlM shape.takeMember shape.empty = .ok parts)
    (hbuild : shape.build (fun _ name => .mistaken (.missingField name)) parts = .ok value) :
    shape.read (.object members .closed) = .ok value := by
  simp only [Shape.read, htake, bind, Except.bind, hbuild]

/-- An object is read field by field. -/
theorem toOption_read_object (hfields : shape.fields.Pairwise Field.Apart)
    {members : Members Tree} (hdistinct : (members.map Prod.fst).Nodup)
    (hskip : ∀ member ∈ members, member.2.skip = .ok ())
    (hempty : ∀ field ∈ shape.fields, field.isSet shape.empty = false) {whole : σ → α}
    (hbuild : ∀ absence parts, shape.build absence parts = .ok (whole parts)) :
    (shape.read (.object (spelled members) .closed)).toOption =
      (readFields members shape.fields shape.empty).toOption.map whole := by
  have hfold := toOption_foldlM hfields hdistinct hskip fun field hfield _ => hempty field hfield
  rw [← hfold, read]
  cases (spelled members).foldlM shape.takeMember shape.empty with
  | error problem => rfl
  | ok parts => simp [hbuild, bind, Except.bind, Except.toOption]

end Shape

end Json

end Logbook
