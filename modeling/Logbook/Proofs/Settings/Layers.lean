/-
Layers of settings.  A table laid over another one is looked up first, section by section, as long
as its sections are tables; so what stands under the name of a setting comes from the uppermost
table that has the name.  Writing single settings into a table changes what stands under their
names and nothing else, and that is what an environment does.  Main statements:
`find?_layMembers`, `Key.find?_overwrite` and `layer_members`.
-/
import Logbook.Proofs.Members
import Logbook.Proofs.Settings.Reading
import Logbook.Settings.Source
import Mathlib.Data.List.TakeWhile

namespace Logbook

namespace Settings

section Distinct

variable {α : Type}

/-- No name comes twice. -/
def Distinct (members : Members α) : Prop :=
  (members.map Prod.fst).Nodup

theorem Distinct.put {members : Members α} (h : Distinct members) (name : String) (value : α) :
    Distinct (members.put name value) := by
  unfold Distinct at h ⊢
  rw [Members.map_fst_put]
  split
  · exact h
  · rename_i hnew
    rw [List.nodup_append]
    refine ⟨h, by simp, ?_⟩
    intro other hother new hmem heq
    rw [List.mem_singleton] at hmem
    rw [heq, hmem] at hother
    exact hnew hother

end Distinct

/-- The sections with these names, one in the other, are tables or absent, and no name comes twice
in a table on the way. -/
def Clear : List String → Members Node → Prop
  | [], members => Distinct members
  | first :: rest, members =>
      Distinct members ∧ IsSection (members.get? first) ∧ Clear rest (below members first)

theorem Clear.distinct {sections : List String} {members : Members Node}
    (h : Clear sections members) : Distinct members := by
  cases sections with
  | nil => exact h
  | cons first rest => exact h.1

theorem sectioned_of_clear {members : Members Node}
    (h : ∀ key : Key, Clear key.sections members) : Sectioned members :=
  ⟨(h .nodeName).2.1, (h .color).2.1, (h (.colorOf .debug)).2.2.2.1⟩

section Lay

variable {base members : Members Node}

theorem get?_layMembers (h : Distinct members) (name : String) :
    (Node.layMembers base members).get? name = match members.get? name with
      | some node => some (Node.layOver (base.get? name) node)
      | none => base.get? name := by
  induction members generalizing base with
  | nil => rfl
  | cons member rest ih =>
      obtain ⟨first, node⟩ := member
      obtain ⟨hnew, hrest⟩ : first ∉ rest.map Prod.fst ∧ Distinct rest := List.nodup_cons.mp h
      rw [Node.layMembers, ih hrest, Members.get?_put]
      by_cases hname : first = name
      · rw [← hname, Members.get?_eq_none_iff.mpr hnew]
        simp [Members.get?]
      · simp [Members.get?, hname]

theorem distinct_layMembers (h : Distinct base) : Distinct (Node.layMembers base members) := by
  induction members generalizing base with
  | nil => exact h
  | cons member rest ih => exact ih (h.put _ _)

theorem isSection_layMembers (h : Distinct members) {name : String}
    (hbase : IsSection (base.get? name)) (hmembers : IsSection (members.get? name)) :
    IsSection ((Node.layMembers base members).get? name) := by
  rw [get?_layMembers h]
  cases hfound : members.get? name with
  | none => exact hbase
  | some node =>
      rw [hfound] at hmembers
      cases node with
      | leaf origin value => exact hmembers.elim
      | list origin items => exact hmembers.elim
      | table origin inner => exact trivial

/-- A section of the whole is the upper section laid over the lower one. -/
theorem below_layMembers (h : Distinct members) {name : String}
    (hmembers : IsSection (members.get? name)) :
    below (Node.layMembers base members) name =
      Node.layMembers (below base name) (below members name) := by
  unfold below
  rw [get?_layMembers h]
  cases hfound : members.get? name with
  | none => rfl
  | some node =>
      rw [hfound] at hmembers
      cases node with
      | leaf origin value => exact hmembers.elim
      | list origin items => exact hmembers.elim
      | table origin inner => rfl

/-- What is found in a table laid over another one is what the upper table has, laid over what the
lower one has. -/
theorem find?_layMembers {sections : List String} (h : Clear sections members) (name : String) :
    find? sections name (Node.layMembers base members) = match find? sections name members with
      | some node => some (Node.layOver (find? sections name base) node)
      | none => find? sections name base := by
  induction sections generalizing base members with
  | nil => exact get?_layMembers h name
  | cons first rest ih =>
      obtain ⟨hdistinct, hsection, hrest⟩ := h
      rw [find?, below_layMembers hdistinct hsection]
      exact ih hrest

theorem Key.find?_layMembers (key : Key) (h : Clear key.sections members) :
    key.find? (Node.layMembers base members) = match key.find? members with
      | some node => some (Node.layOver (key.find? base) node)
      | none => key.find? base :=
  Settings.find?_layMembers h key.name

theorem clear_layMembers {sections : List String} (hbase : Clear sections base)
    (h : Clear sections members) : Clear sections (Node.layMembers base members) := by
  induction sections generalizing base members with
  | nil => exact distinct_layMembers hbase
  | cons first rest ih =>
      obtain ⟨hdistinct, hsection, hrest⟩ := h
      refine ⟨distinct_layMembers hbase.1, isSection_layMembers hdistinct hbase.2.1 hsection, ?_⟩
      rw [below_layMembers hdistinct hsection]
      exact ih hbase.2.2 hrest

end Lay

/-- The section that stands at a place, or an empty one. -/
def sectionAt (made : Origin) : Option Node → Origin × Members Node
  | some (.table origin members) => (origin, members)
  | _ => (made, [])

/-- Writes a value under a name in nested sections.  A section that is missing is made, and it
takes the place of what is no section. -/
def write (made : Origin) (value : Node) : List String → String → Members Node → Members Node
  | [], name, members => members.put name value
  | first :: rest, name, members =>
      let (origin, inner) := sectionAt made (members.get? first)
      members.put first (.table origin (write made value rest name inner))

section Write

variable {made : Origin} {value : Node} {members : Members Node}

variable (made value members) in
theorem write_cons (first : String) (rest : List String) (name : String) :
    ∃ origin, write made value (first :: rest) name members =
      members.put first (.table origin (write made value rest name (below members first))) := by
  have hinner : (sectionAt made (members.get? first)).2 = below members first := by
    unfold below
    rcases members.get? first with - | (- | - | -) <;> rfl
  exact ⟨(sectionAt made (members.get? first)).1, by rw [← hinner]; rfl⟩

theorem below_put_self (name : String) (origin : Origin) (inner : Members Node) :
    below (members.put name (.table origin inner)) name = inner := by
  simp [below, Members.get?_put, Node.tableBelow]

theorem below_put_of_ne {name other : String} (h : name ≠ other) (node : Node) :
    below (members.put name node) other = below members other := by
  simp [below, Members.get?_put, h]

theorem find?_write_self (sections : List String) (name : String) :
    find? sections name (write made value sections name members) = some value := by
  induction sections generalizing members with
  | nil => simp [find?, write, Members.get?_put]
  | cons first rest ih =>
      obtain ⟨origin, hwrite⟩ := write_cons made value members first rest name
      rw [hwrite, find?, below_put_self]
      exact ih

/-- What stands elsewhere stays, as long as neither place is inside the other. -/
theorem find?_write_of_apart {sections sections' : List String} {name name' : String}
    (h : ¬sections ++ [name] <+: sections' ++ [name'])
    (h' : ¬sections' ++ [name'] <+: sections ++ [name]) :
    find? sections' name' (write made value sections name members) =
      find? sections' name' members := by
  induction sections generalizing sections' members with
  | nil =>
      cases sections' with
      | nil =>
          have hne : name ≠ name' := by
            rintro rfl
            exact h (List.prefix_refl _)
          simp [find?, write, Members.get?_put, hne]
      | cons first' rest' =>
          have hne : name ≠ first' := by
            rintro rfl
            exact h (by simp)
          rw [find?, find?, write, below_put_of_ne hne]
  | cons first rest ih =>
      obtain ⟨origin, hwrite⟩ := write_cons made value members first rest name
      rw [hwrite]
      cases sections' with
      | nil =>
          have hne : first ≠ name' := by
            rintro rfl
            exact h' (by simp)
          simp [find?, Members.get?_put, hne]
      | cons first' rest' =>
          rw [find?, find?]
          by_cases hfirst : first = first'
          · subst hfirst
            rw [below_put_self]
            simp only [List.cons_append, List.cons_prefix_cons, true_and] at h h'
            exact ih h h'
          · rw [below_put_of_ne hfirst]

/-- Sections stay tables, as long as no value is written over one of them. -/
theorem clear_write {sections sections' : List String} {name : String}
    (hclear : Clear sections' members) (h : ¬sections ++ [name] <+: sections') :
    Clear sections' (write made value sections name members) := by
  induction sections generalizing sections' members with
  | nil =>
      cases sections' with
      | nil => exact hclear.put name value
      | cons first' rest' =>
          obtain ⟨hdistinct, hsection, hrest⟩ := hclear
          have hne : name ≠ first' := by
            rintro rfl
            exact h (by simp)
          refine ⟨hdistinct.put name value, ?_, ?_⟩
          · simpa [write, Members.get?_put, hne] using hsection
          · rwa [write, below_put_of_ne hne]
  | cons first rest ih =>
      obtain ⟨origin, hwrite⟩ := write_cons made value members first rest name
      rw [hwrite]
      cases sections' with
      | nil => exact hclear.distinct.put _ _
      | cons first' rest' =>
          obtain ⟨hdistinct, hsection, hrest⟩ := hclear
          refine ⟨hdistinct.put _ _, ?_, ?_⟩
          · by_cases hfirst : first = first'
            · simp [Members.get?_put, hfirst, IsSection]
            · simpa [Members.get?_put, hfirst] using hsection
          · by_cases hfirst : first = first'
            · subst hfirst
              rw [below_put_self]
              rw [List.cons_append, List.cons_prefix_cons] at h
              exact ih hrest fun hprefix => h ⟨rfl, hprefix⟩
            · rwa [below_put_of_ne hfirst]

/-- Only the outermost name can be a new one. -/
theorem mem_names_write {sections : List String} {name other : String}
    (h : other ∈ (write made value sections name members).map Prod.fst) :
    other ∈ members.map Prod.fst ∨ (sections ++ [name]).head? = some other := by
  have hput : ∀ (first : String) (node : Node),
      other ∈ (members.put first node).map Prod.fst →
        other ∈ members.map Prod.fst ∨ first = other := by
    intro first node hmem
    rw [Members.map_fst_put] at hmem
    split at hmem
    · exact Or.inl hmem
    · rw [List.mem_append, List.mem_singleton] at hmem
      exact hmem.imp_right Eq.symm
  cases sections with
  | nil => simpa using hput name value h
  | cons first rest =>
      obtain ⟨origin, hwrite⟩ := write_cons made value members first rest name
      rw [hwrite] at h
      simpa using hput first _ h

end Write

namespace Key

/-- Writes the value of a setting into a table. -/
def write (key : Key) (made : Origin) (value : Node) (members : Members Node) : Members Node :=
  Settings.write made value key.sections key.name members

/-- No setting is inside another one. -/
theorem apart {key other : Key} (h : key ≠ other) : ¬key.path <+: other.path := by
  have hall : ∀ key ∈ all, ∀ other ∈ all, key.path <+: other.path → key = other := by
    decide +kernel
  exact fun hprefix => h (hall key key.mem_all other other.mem_all hprefix)

/-- No setting is a section around another one. -/
theorem outside (key other : Key) : ¬key.path <+: other.sections := by
  have hall : ∀ key ∈ all, ∀ other ∈ all, ¬key.path <+: other.sections := by decide +kernel
  exact hall key key.mem_all other other.mem_all

/-- Writing a setting changes no other one. -/
theorem find?_write (key other : Key) (made : Origin) (value : Node) (members : Members Node) :
    other.find? (key.write made value members) =
      if key = other then some value else other.find? members := by
  split
  · rename_i heq
    subst heq
    exact find?_write_self key.sections key.name
  · rename_i hne
    exact find?_write_of_apart (apart hne) (apart (Ne.symm hne))

end Key

/-- The text that is given last for a setting. -/
def lastFor (key : Key) : List (Key × String) → Option String
  | [] => none
  | (other, text) :: rest => (lastFor key rest).or (if other = key then some text else none)

/-- Writes texts for settings into a table, one after the other. -/
def overwrite (made given : Origin) (overrides : List (Key × String)) (members : Members Node) :
    Members Node :=
  overrides.foldl (fun members (key, text) => key.write made (.leaf given (.text text)) members)
    members

section Overwrite

variable {made given : Origin} {overrides : List (Key × String)} {members : Members Node}

/-- Of all settings just those that a text was given for have changed. -/
theorem Key.find?_overwrite (key : Key) :
    key.find? (overwrite made given overrides members) = match lastFor key overrides with
      | some text => some (.leaf given (.text text))
      | none => key.find? members := by
  induction overrides generalizing members with
  | nil => rfl
  | cons override rest ih =>
      obtain ⟨other, text⟩ := override
      rw [overwrite, List.foldl_cons]
      refine ih.trans ?_
      rw [Key.find?_write, lastFor]
      cases lastFor key rest with
      | some last => rfl
      | none => by_cases hkey : other = key <;> simp [hkey]

theorem clear_overwrite (h : ∀ key : Key, Clear key.sections members) (key : Key) :
    Clear key.sections (overwrite made given overrides members) := by
  induction overrides generalizing members with
  | nil => exact h key
  | cons override rest ih =>
      obtain ⟨other, text⟩ := override
      exact ih fun key => clear_write (h key) (other.outside key)

end Overwrite

/-- A name that is no path: letters, digits, underscores and hyphens. -/
def IsPlain (name : String) : Prop :=
  name.toList ≠ [] ∧ ∀ c ∈ name.toList, KeyPath.isNameChar c

-- Goes through the characters of the name, not through all characters that there are.
instance (name : String) : Decidable (IsPlain name) :=
  haveI := List.decidableBAll (fun c => KeyPath.isNameChar c = true) name.toList
  inferInstanceAs (Decidable (_ ∧ _))

theorem pieces_of_forall {separates : Char → Bool} {s : List Char}
    (h : ∀ c ∈ s, separates c = false) : Text.pieces separates s = [s] := by
  induction s with
  | nil => rfl
  | cons c rest ih =>
      have hrest := ih fun other hother => h other (List.mem_cons_of_mem c hother)
      rw [Text.pieces, h c List.mem_cons_self, hrest]
      rfl

/-- A name without points and brackets is a path of one step. -/
theorem ofKey_of_isPlain {name : String} (h : IsPlain name) : KeyPath.ofKey name = ⟨name, []⟩ := by
  obtain ⟨hne, hall⟩ := h
  have hpoint : ∀ c ∈ name.toList, (c == '.') = false := by
    intro c hc
    rw [beq_eq_false_iff_ne]
    rintro rfl
    exact absurd (hall _ hc) (by decide)
  have hbracket : ∀ c ∈ name.toList, (c != '[') = true := by
    intro c hc
    rw [bne_iff_ne]
    rintro rfl
    exact absurd (hall _ hc) (by decide)
  have hname : KeyPath.name? name.toList = some name := by
    rw [KeyPath.name?, if_pos, String.ofList_toList]
    simpa using ⟨by simpa using hne, hall⟩
  have hsegment : KeyPath.segment? name.toList = some (name, []) := by
    rw [KeyPath.segment?, List.takeWhile_eq_self_iff.mpr hbracket,
      List.dropWhile_eq_nil_iff.mpr hbracket, hname]
    rfl
  rw [KeyPath.ofKey, KeyPath.ofText?, pieces_of_forall hpoint]
  simp [hsegment]

/-- A table of a source in which settings can be looked up: its names are no paths, the sections
around the settings are tables or absent, and no name comes twice in them. -/
structure Proper (members : Members Node) : Prop where
  plain : ∀ name ∈ members.map Prod.fst, IsPlain name
  clear : ∀ key : Key, Clear key.sections members

theorem Proper.sectioned {members : Members Node} (h : Proper members) : Sectioned members :=
  sectioned_of_clear h.clear

theorem layer_cons (base : Members Node) (key : String) (node : Node)
    (rest : List (String × Node)) :
    Node.layer base ((key, node) :: rest) =
      Node.layer (base.put (KeyPath.ofKey key).root
        (Node.setAt node (KeyPath.ofKey key).steps (base.get? (KeyPath.ofKey key).root))) rest := rfl

/-- A source without paths is laid over a table name by name. -/
theorem layer_eq_layMembers {base source : Members Node}
    (h : ∀ name ∈ source.map Prod.fst, IsPlain name) :
    Node.layer base source = Node.layMembers base source := by
  induction source generalizing base with
  | nil => rfl
  | cons member rest ih =>
      obtain ⟨name, node⟩ := member
      obtain ⟨hname, hrest⟩ : IsPlain name ∧ ∀ other ∈ rest.map Prod.fst, IsPlain other := by
        simpa using h
      rw [layer_cons, ofKey_of_isPlain hname, ih hrest, Node.layMembers, Node.setAt]

namespace Key

/-- The text that names a setting in a source. -/
def text (key : Key) : String :=
  ".".intercalate key.path

/-- The variable of the environment for a setting. -/
def variableName : Key → String
  | .nodeName => "NODELOG_LOGGER__NODE_NAME"
  | .minLevel => "NODELOG_LOGGER__MIN_LEVEL"
  | .localOutput => "NODELOG_LOGGER__LOCAL_OUTPUT"
  | .sequenceStart => "NODELOG_LOGGER__SEQUENCE_START"
  | .color => "NODELOG_CONSOLE__COLOR"
  | .colorOf .debug => "NODELOG_CONSOLE__COLORS__DEBUG"
  | .colorOf .info => "NODELOG_CONSOLE__COLORS__INFO"
  | .colorOf .warn => "NODELOG_CONSOLE__COLORS__WARN"
  | .colorOf .error => "NODELOG_CONSOLE__COLORS__ERROR"
  | .colorOf .fatal => "NODELOG_CONSOLE__COLORS__FATAL"

theorem key?_variableName (key : Key) : Environment.key? key.variableName = some key.text := by
  have hall : ∀ key ∈ all, Environment.key? key.variableName = some key.text := by decide +kernel
  exact hall key key.mem_all

/-- The text that names a setting is the path to it. -/
theorem ofKey_text (key : Key) :
    ∃ first rest, key.sections = first :: rest ∧
      KeyPath.ofKey key.text = ⟨first, (rest ++ [key.name]).map .key⟩ := by
  rcases key with - | - | - | - | - | (- | - | - | - | -)
  all_goals exact ⟨_, _, rfl, by decide +kernel⟩

end Key

theorem sectionAt_unnamed (found : Option Node) :
    sectionAt .unnamed found = Node.tableBelow found := by
  rcases found with - | (- | - | -) <;> rfl

/-- Going down a way of names and laying a value without parts there is writing it. -/
theorem setAt_keys {origin : Origin} {value : Leaf} (rest : List String) (name : String)
    (below : Option Node) :
    Node.setAt (.leaf origin value) ((rest ++ [name]).map .key) below =
      .table (Node.tableBelow below).1
        (write .unnamed (.leaf origin value) rest name (Node.tableBelow below).2) := by
  induction rest generalizing below with
  | nil => rfl
  | cons first rest ih =>
      simp only [List.cons_append, List.map_cons, Node.setAt, ih, write, sectionAt_unnamed]

/-- To lay one setting over a table is to write it. -/
theorem layer_setting (key : Key) (origin : Origin) (value : Leaf) (base : Members Node)
    (rest : List (String × Node)) :
    Node.layer base ((key.text, .leaf origin value) :: rest) =
      Node.layer (key.write .unnamed (.leaf origin value) base) rest := by
  obtain ⟨first, more, hsections, hkey⟩ := key.ofKey_text
  have hwrite : base.put first (Node.setAt (.leaf origin value) ((more ++ [key.name]).map .key)
      (base.get? first)) = key.write .unnamed (.leaf origin value) base := by
    rw [setAt_keys, Key.write, hsections, write, sectionAt_unnamed]
  rw [layer_cons, hkey, hwrite]

/-- An environment in which the variables with settings set just these, in this order. -/
def Sets (environment : List (String × String)) (overrides : List (Key × String)) : Prop :=
  Environment.members environment =
    overrides.map fun (key, text) => (key.text, .leaf .environment (.text text))

/-- An environment is laid over a table by writing what it sets. -/
theorem layer_members {environment : List (String × String)} {overrides : List (Key × String)}
    (h : Sets environment overrides) (base : Members Node) :
    Node.layer base (Environment.members environment) =
      overwrite .unnamed .environment overrides base := by
  rw [h]
  clear h
  induction overrides generalizing base with
  | nil => rfl
  | cons override rest ih =>
      obtain ⟨key, text⟩ := override
      rw [List.map_cons, layer_setting, ih]
      rfl

end Settings

end Logbook
