/-
The forms in which a structure may come.  An object in which each field stands once is read
whatever the order of its members and whatever else it holds, and so is an array of the fields.
An object in which a field is missing or comes twice is refused, and so is everything in which a
field has a value that its reader refuses.
-/
import Logbook.Proofs.Json.Fields
import Logbook.Proofs.Json.Grammar

namespace Logbook.Json

/-- The trees in which a value may come. -/
abbrev Form := Tree → Prop

/-- The trees in which a structure may come, given those of its fields. -/
inductive Presented (forms : List (String × Form)) : Form
  /-- The fields in any order, among members with other names. -/
  | object {values : List Tree}
      (hvalues : List.Forall₂ (fun form value => form.2 value) forms values)
      {others members : Members Tree} (hothers : ∀ member ∈ others, member.1 ∉ forms.map Prod.fst)
      (horder : members.Perm ((forms.map Prod.fst).zip values ++ others)) :
      Presented forms (.object (spelled members) .closed)
  /-- The fields in their order. -/
  | array {values : List Tree}
      (hvalues : List.Forall₂ (fun form value => form.2 value) forms values) :
      Presented forms (.array values .closed)

/-- The fields in their order, and nothing else. -/
theorem Presented.plain {forms : List (String × Form)} (values : List Tree)
    (hvalues : List.Forall₂ (fun form value => form.2 value) forms values) :
    Presented forms (.object (spelled ((forms.map Prod.fst).zip values)) .closed) :=
  .object hvalues (List.forall_mem_nil _) (.of_eq (List.append_nil _).symm)

/-- The trees in which something is wrong with a structure, given the names of its fields and the
trees in which something is wrong with one of them.  Whatever else they hold may be right or
wrong. -/
inductive Marred (names : List String) (faults : List (String × Form)) : Form
  /-- A field is missing, or comes more than once. -/
  | miscounted {name : String} (hname : name ∈ names) {members : Members Tree}
      (hcount : (members.map Prod.fst).count name ≠ 1) :
      Marred names faults (.object (spelled members) .closed)
  /-- Something is wrong with a field of an object. -/
  | member {name : String} {fault : Form} (hfault : (name, fault) ∈ faults) {value : Tree}
      (hvalue : fault value) {members : Members Tree} (hmember : (name, value) ∈ members) :
      Marred names faults (.object (spelled members) .closed)
  /-- Something is wrong with a field of an array. -/
  | item {name : String} {fault : Form} (hfault : (name, fault) ∈ faults) {value : Tree}
      (hvalue : fault value) {items : List Tree} (hitem : (name, value) ∈ names.zip items) :
      Marred names faults (.array items .closed)

variable {σ α : Type} {shape : Shape σ α}

/-- A structure of which every field has to be given, in a place of its own. -/
structure Shape.Strict (shape : Shape σ α) : Prop where
  apart : shape.fields.Pairwise Field.Apart
  unset : ∀ field ∈ shape.fields, field.isSet shape.empty = false
  sets : ∀ field ∈ shape.fields, ∀ {tree parts parts'}, field.read tree parts = .ok parts' →
    field.isSet parts' = true
  complete : ∀ {absence parts value}, shape.build absence parts = .ok value →
    ∀ field ∈ shape.fields, field.isSet parts = true

theorem Field.sets_of {β : Type} (name : String) {get : σ → Option β} {set : σ → Option β → σ}
    (reader : Reader β) (hget : ∀ parts value, get (set parts (some value)) = some value)
    {tree : Tree} {parts parts' : σ}
    (h : (Field.of name get set reader).read tree parts = .ok parts') :
    (Field.of name get set reader).isSet parts' = true := by
  obtain ⟨value, -, rfl⟩ := exists_of_map_eq_ok h
  simp [Field.of, hget]

/-- A value that a field is not read from. -/
def Field.Refuses (field : Field σ) (tree : Tree) : Prop :=
  ∀ parts parts', field.read tree parts ≠ .ok parts'

theorem Field.refuses_of {β : Type} (name : String) (get : σ → Option β)
    (set : σ → Option β → σ) {reader : Reader β} {tree : Tree}
    (h : ∀ value, reader tree ≠ .ok value) : (Field.of name get set reader).Refuses tree := by
  intro parts parts' hread
  obtain ⟨value, hvalue, -⟩ := exists_of_map_eq_ok hread
  exact h value hvalue

namespace Shape

/-- The names of the fields of a structure. -/
def names (shape : Shape σ α) : List String :=
  shape.fields.map Field.name

theorem Strict.nodup_names (h : shape.Strict) : shape.names.Nodup :=
  List.pairwise_map.mpr (h.apart.imp Field.Apart.name)

/-- Members with other names may be left out. -/
theorem foldlM_filter {members : Members Tree} (hskip : ∀ member ∈ members, member.2.skip = .ok ())
    (parts : σ) :
    (spelled members).foldlM shape.takeMember parts =
      (spelled (members.filter (·.1 ∈ shape.names))).foldlM shape.takeMember parts := by
  induction members generalizing parts with
  | nil => rfl
  | cons member members ih =>
      obtain ⟨htree, hmembers⟩ := List.forall_mem_cons.mp hskip
      by_cases hknown : member.1 ∈ shape.names
      · rw [List.filter_cons_of_pos (by simpa using hknown)]
        simp only [spelled, List.map_cons, List.foldlM_cons]
        exact congrArg _ (funext fun parts => ih hmembers parts)
      · have hunknown : ∀ field ∈ shape.fields, field.name ≠ member.1 := by
          intro field hfield hname
          exact hknown (hname ▸ List.mem_map_of_mem hfield)
        rw [List.filter_cons_of_neg (by simpa using hknown), ← ih hmembers]
        simp only [spelled, List.map_cons, List.foldlM_cons]
        rw [takeMember_unknown hunknown htree]
        rfl

end Shape

/-- Of fields and their values in turn each is found. -/
theorem readFields_zip {fields : List (Field σ)} (hnodup : (fields.map Field.name).Nodup)
    {values : List Tree} (hlength : values.length = fields.length) (parts : σ) :
    readFields ((fields.map Field.name).zip values) fields parts =
      Shape.takeItems .closed fields values parts := by
  induction fields generalizing values parts with
  | nil =>
      obtain rfl := List.length_eq_zero_iff.mp hlength
      rfl
  | cons field fields ih =>
      rcases values with _ | ⟨value, values⟩
      · simp at hlength
      · obtain ⟨hnew, hrest⟩ := List.nodup_cons.mp hnodup
        have hothers : ∀ other ∈ fields,
            Members.get? ((field.name, value) :: (fields.map Field.name).zip values) other.name =
              Members.get? ((fields.map Field.name).zip values) other.name := by
          intro other hother
          have hne : field.name ≠ other.name :=
            fun heq => hnew (heq ▸ List.mem_map_of_mem hother)
          rw [Members.get?, if_neg hne]
        have hlater := ih hrest (by simpa using hlength)
        rw [List.map_cons, List.zip_cons_cons, readFields, funext (readFields_congr hothers),
          funext hlater, readField, Members.get?, if_pos rfl, Shape.takeItems]

namespace Shape

/-- Among fields and their values and other members the fields are found by their names. -/
theorem filter_names {values : List Tree} {others : Members Tree}
    (hothers : ∀ member ∈ others, member.1 ∉ shape.names) :
    (shape.names.zip values ++ others).filter (·.1 ∈ shape.names) = shape.names.zip values := by
  have hkept : ∀ member ∈ shape.names.zip values, member.1 ∈ shape.names :=
    fun member hmember => (List.of_mem_zip hmember).1
  rw [List.filter_append, List.filter_eq_self.mpr (by simpa using hkept),
    List.filter_eq_nil_iff.mpr (by simpa using hothers), List.append_nil]

/-- Of an object in which each field stands once the fields are read in their order. -/
theorem Strict.toOption_foldlM (h : shape.Strict) {values : List Tree}
    (hlength : values.length = shape.fields.length) {others members : Members Tree}
    (hothers : ∀ member ∈ others, member.1 ∉ shape.names)
    (horder : members.Perm (shape.names.zip values ++ others))
    (hskip : ∀ member ∈ members, member.2.skip = .ok ()) :
    ((spelled members).foldlM shape.takeMember shape.empty).toOption =
      (takeItems .closed shape.fields values shape.empty).toOption := by
  have hnames : (shape.names.zip values).map Prod.fst = shape.names :=
    List.map_fst_zip (by simp [names, hlength])
  have hperm := horder.filter (·.1 ∈ shape.names)
  rw [filter_names hothers] at hperm
  -- Without the other members, of which a name may come twice, no name does.
  have hdistinct : ((members.filter (·.1 ∈ shape.names)).map Prod.fst).Nodup := by
    rw [(hperm.map Prod.fst).nodup_iff, hnames]
    exact h.nodup_names
  have hread := Shape.toOption_foldlM h.apart hdistinct
    (fun member hmember => hskip member (List.mem_of_mem_filter hmember))
    fun field hfield _ => h.unset field hfield
  have hfound : readFields (members.filter (·.1 ∈ shape.names)) shape.fields shape.empty =
      readFields (shape.names.zip values) shape.fields shape.empty :=
    readFields_congr (fun field _ => Members.get?_perm hperm hdistinct field.name) shape.empty
  rw [foldlM_filter hskip, hread, hfound]
  exact congrArg Except.toOption (readFields_zip h.nodup_names hlength shape.empty)

/-- The values of the fields are whole if all members are. -/
theorem wholeItems_of_perm {values : List Tree} (hlength : values.length = shape.fields.length)
    {others members : Members Tree} (horder : members.Perm (shape.names.zip values ++ others))
    (hmembers : ∀ member ∈ members, member.2.Whole) : Tree.WholeItems values := by
  have hvalues : (shape.names.zip values).map Prod.snd = values :=
    List.map_snd_zip (by simp [names, hlength])
  rw [Tree.wholeItems_iff, ← hvalues]
  intro item hitem
  obtain ⟨member, hmember, rfl⟩ := List.mem_map.mp hitem
  exact hmembers member (horder.mem_iff.mpr (List.mem_append_left others hmember))

/-- A structure is read from every tree in which it may come. -/
theorem Strict.read_presented (h : shape.Strict) {forms : List (String × Form)}
    (hnames : forms.map Prod.fst = shape.names) (parts : σ) {value : α}
    (htake : ∀ {values}, List.Forall₂ (fun form value => form.2 value) forms values →
      Tree.WholeItems values → takeItems .closed shape.fields values shape.empty = .ok parts)
    (hbuild : ∀ absence, shape.build absence parts = .ok value) {tree : Tree}
    (hpresented : Presented forms tree) (hwhole : tree.Whole) : shape.read tree = .ok value := by
  have hcount : forms.length = shape.fields.length := by
    simpa [names] using congrArg List.length hnames
  rcases hpresented with @⟨values, hvalues, others, members, hothers, horder⟩ | hvalues
  · rw [hnames] at hothers horder
    have hlength : values.length = shape.fields.length := by rw [← hvalues.length_eq, hcount]
    have hmembers : ∀ member ∈ members, member.2.Whole := fun member hmember =>
      Tree.wholeMembers_iff.mp hwhole.1 _ (List.mem_map_of_mem hmember)
    have hfold := h.toOption_foldlM hlength hothers horder
      fun member hmember => (hmembers member hmember).skip
    rw [htake hvalues (wholeItems_of_perm hlength horder hmembers)] at hfold
    exact read_object (toOption_eq_some_iff.mp hfold) (hbuild _)
  · simp only [read, htake hvalues hwhole.1, bind, Except.bind, hbuild]

/-- What a member that is taken was: a field that was not set, read from its value, or a member
with another name. -/
theorem takeMember_cases {parts parts' : σ} {name : String} {tree : Tree}
    (h : shape.takeMember parts (.ok name.toList, tree) = .ok parts') :
    (∃ field ∈ shape.fields, field.name = name ∧ field.isSet parts = false ∧
      field.read tree parts = .ok parts') ∨ (name ∉ shape.names ∧ parts' = parts) := by
  obtain ⟨key, hkey, htake⟩ := exists_of_bind_eq_ok h
  obtain rfl := Except.ok.inj hkey
  rw [String.ofList_toList] at htake
  split at htake
  case h_1 field hfind =>
    have hname : field.name = name := by simpa using List.find?_some hfind
    split at htake
    case isTrue => simp at htake
    case isFalse hunset =>
      exact Or.inl ⟨field, List.mem_of_find?_eq_some hfind, hname, by simpa using hunset, htake⟩
  case h_2 hfind =>
    obtain ⟨_, -, hparts⟩ := exists_of_bind_eq_ok htake
    exact Or.inr ⟨by simpa [names] using hfind, (Except.ok.inj hparts).symm⟩

/-- A field is known by its name. -/
theorem Strict.eq_of_name_eq (h : shape.Strict) {field other : Field σ}
    (hfield : field ∈ shape.fields) (hother : other ∈ shape.fields)
    (hname : field.name = other.name) : field = other := by
  by_contra hne
  exact (h.apart.forall hfield hother hne).name hname

/-- A member with the name of a field sets that field, which was not set, and no other. -/
theorem Strict.count_takeMember (h : shape.Strict) {field : Field σ}
    (hfield : field ∈ shape.fields) {parts parts' : σ} {name : String} {tree : Tree}
    (htake : shape.takeMember parts (.ok name.toList, tree) = .ok parts') :
    (if name = field.name then 1 else 0) + (field.isSet parts).toNat =
      (field.isSet parts').toNat := by
  rcases takeMember_cases htake with ⟨other, hother, rfl, hunset, hread⟩ | ⟨hunknown, rfl⟩
  · by_cases hname : other.name = field.name
    · obtain rfl := h.eq_of_name_eq hother hfield hname
      rw [if_pos rfl, hunset, h.sets other hother hread]
      rfl
    · have hapart := h.apart.forall hother hfield fun heq => hname (congrArg Field.name heq)
      rw [if_neg hname, Nat.zero_add, hapart.isSet tree parts parts' hread]
  · have hne : name ≠ field.name := fun hname => hunknown (hname ▸ List.mem_map_of_mem hfield)
    rw [if_neg hne, Nat.zero_add]

/-- A field is set by as many members as have its name. -/
theorem Strict.count_foldlM (h : shape.Strict) {field : Field σ} (hfield : field ∈ shape.fields)
    {members : Members Tree} {parts parts' : σ}
    (hfold : (spelled members).foldlM shape.takeMember parts = .ok parts') :
    (members.map Prod.fst).count field.name + (field.isSet parts).toNat =
      (field.isSet parts').toNat := by
  induction members generalizing parts with
  | nil =>
      obtain rfl := Except.ok.inj hfold
      simp
  | cons member members ih =>
      rw [spelled, List.map_cons, List.foldlM_cons] at hfold
      obtain ⟨parts₁, htake, hrest⟩ := exists_of_bind_eq_ok hfold
      -- A step moves one from the names to come to the field that is set.
      have hstep := h.count_takeMember hfield htake
      have hlater := ih hrest
      rw [List.map_cons, List.count_cons]
      simp only [beq_iff_eq]
      omega

/-- In an object that is read each field stands once, and is read. -/
theorem Strict.read_object_ok (h : shape.Strict) {members : Members Tree} {value : α}
    (hread : shape.read (.object (spelled members) .closed) = .ok value) {field : Field σ}
    (hfield : field ∈ shape.fields) :
    (members.map Prod.fst).count field.name = 1 ∧
      ∀ tree, (field.name, tree) ∈ members → ¬field.Refuses tree := by
  obtain ⟨parts, hfold, hbuild⟩ := exists_of_bind_eq_ok hread
  constructor
  · have hcount := h.count_foldlM hfield hfold
    rw [h.unset field hfield, h.complete hbuild field hfield] at hcount
    exact hcount
  · intro tree hmember hrefuses
    obtain ⟨before, after, htake⟩ := exists_of_foldlM_eq_ok hfold _ (List.mem_map_of_mem hmember)
    rcases takeMember_cases htake with ⟨other, hother, hname, -, htaken⟩ | ⟨hunknown, -⟩
    · obtain rfl := h.eq_of_name_eq hother hfield hname
      exact hrefuses before after htaken
    · exact hunknown (List.mem_map_of_mem hfield)

/-- Of an array that is read each item is read as its field. -/
theorem takeItems_ok {fields : List (Field σ)} {items : List Tree} {ending : Ending}
    {parts parts' : σ} (h : takeItems ending fields items parts = .ok parts') :
    ∀ pair ∈ fields.zip items, ¬pair.1.Refuses pair.2 := by
  induction fields generalizing items parts with
  | nil => simp
  | cons field fields ih =>
      rcases items with _ | ⟨tree, items⟩
      · simp
      · rw [takeItems] at h
        obtain ⟨parts₁, hread, hrest⟩ := exists_of_bind_eq_ok h
        exact List.forall_mem_cons.mpr ⟨fun hrefuses => hrefuses parts parts₁ hread, ih hrest⟩

/-- A structure is read from no tree in which something is wrong with it. -/
theorem Strict.refuses_marred (h : shape.Strict) {faults : List (String × Form)}
    (hfaults : ∀ fault ∈ faults, ∃ field ∈ shape.fields, field.name = fault.1 ∧
      ∀ tree, fault.2 tree → field.Refuses tree)
    {tree : Tree} (hmarred : Marred shape.names faults tree) (value : α) :
    shape.read tree ≠ .ok value := by
  intro hread
  rcases hmarred with ⟨hname, hcount⟩ | ⟨hfault, hvalue, hmember⟩ | ⟨hfault, hvalue, hitem⟩
  · obtain ⟨field, hfield, rfl⟩ := List.mem_map.mp hname
    exact hcount (h.read_object_ok hread hfield).1
  · obtain ⟨field, hfield, rfl, hrefuses⟩ := hfaults _ hfault
    exact (h.read_object_ok hread hfield).2 _ hmember (hrefuses _ hvalue)
  · obtain ⟨field, hfield, rfl, hrefuses⟩ := hfaults _ hfault
    obtain ⟨parts, htake, -⟩ := exists_of_bind_eq_ok hread
    rw [names, List.zip_map_left] at hitem
    obtain ⟨⟨other, item⟩, hpair, heq⟩ := List.mem_map.mp hitem
    obtain ⟨hname, rfl⟩ := Prod.mk.inj heq
    obtain rfl := h.eq_of_name_eq (List.of_mem_zip hpair).1 hfield hname
    exact takeItems_ok htake _ hpair (hrefuses _ hvalue)

end Shape

end Logbook.Json
