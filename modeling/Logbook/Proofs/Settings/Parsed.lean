/-
Tables that were read.  In no table of a document does a name come twice, neither in TOML, where a
second one is a mistake, nor in JSON, where the last one counts.  So a table that was read is
proper as soon as its names are plain and its sections are tables.  Main statement:
`proper_of_members`.
-/
import Logbook.Proofs.Settings.Layers

namespace Logbook

namespace Toml

open Settings (Distinct)

/-- In no table of a value does a name come twice. -/
inductive Value.Tidy : Value → Prop
  | scalar (s : Scalar) : Tidy (.scalar s)
  | array {items : List Value} (h : ∀ item ∈ items, Tidy item) : Tidy (.array items)
  | entries {tables : List (TableKind × List (String × Value))}
      (hdistinct : ∀ table ∈ tables, Distinct table.2)
      (h : ∀ table ∈ tables, ∀ member ∈ table.2, Tidy member.2) : Tidy (.entries tables)
  | table {kind : TableKind} {members : List (String × Value)} (hdistinct : Distinct members)
      (h : ∀ member ∈ members, Tidy member.2) : Tidy (.table kind members)

namespace Table

/-- In no table that begins here does a name come twice. -/
structure Tidy (table : Table) : Prop where
  distinct : Distinct table.2
  members : ∀ member ∈ table.2, member.2.Tidy

variable {table table' : Table}

theorem Tidy.value (h : Tidy table) : Value.Tidy (.table table.1 table.2) :=
  .table h.distinct h.members

theorem Tidy.put (h : Tidy table) (key : String) {value : Value} (hvalue : value.Tidy) :
    Tidy (table.put key value) := by
  refine ⟨h.distinct.put key value, ?_⟩
  intro member hmember
  rcases Members.eq_or_mem_of_mem_put hmember with heq | hold
  · rwa [heq]
  · exact h.members member hold

theorem Tidy.get? (h : Tidy table) {key : String} {value : Value}
    (hfound : table.get? key = some value) : value.Tidy :=
  h.members _ (Members.mem_of_get? hfound)

/-- A change that keeps tables tidy does so at the end of every path. -/
theorem Tidy.update {dotted : Bool} {change : Table → Option Table}
    (hchange : ∀ {table table'}, Tidy table → change table = some table' → Tidy table') (path : Path)
    (h : Tidy table) (hupdate : table.update dotted change path = some table') : Tidy table' := by
  induction path generalizing table table' with
  | nil => exact hchange h hupdate
  | cons key path ih =>
      have hempty : ∀ kind, Tidy (kind, ([] : Members Value)) := fun kind => ⟨List.nodup_nil, by simp⟩
      rw [Table.update] at hupdate
      cases hfound : table.get? key with
      | none =>
          simp only [hfound, Option.bind_eq_bind, Option.bind_eq_some_iff] at hupdate
          obtain ⟨inner, hinner, hput⟩ := hupdate
          obtain rfl := Option.some.inj hput
          exact h.put key (ih (hempty _) hinner).value
      | some value =>
          have hvalue := h.get? hfound
          cases hvalue with
          | scalar s => simp [hfound] at hupdate
          | array hitems => simp [hfound] at hupdate
          | @table kind members hdistinct hmembers =>
              simp only [hfound] at hupdate
              split at hupdate
              · simp at hupdate
              · simp only [Option.bind_eq_bind, Option.bind_eq_some_iff] at hupdate
                obtain ⟨inner, hinner, hput⟩ := hupdate
                obtain rfl := Option.some.inj hput
                exact h.put key (ih ⟨hdistinct, hmembers⟩ hinner).value
          | @entries tables hdistinct hmembers =>
              cases tables with
              | nil => simp [hfound] at hupdate
              | cons last before =>
                  simp only [hfound, Option.bind_eq_bind, Option.bind_eq_some_iff] at hupdate
                  obtain ⟨inner, hinner, hput⟩ := hupdate
                  obtain rfl := Option.some.inj hput
                  have hlast : Tidy last :=
                    ⟨hdistinct last List.mem_cons_self, hmembers last List.mem_cons_self⟩
                  have hnew := ih hlast hinner
                  refine h.put key (.entries ?_ ?_)
                  · intro table hmem
                    rcases List.mem_cons.mp hmem with rfl | hmem
                    · exact hnew.distinct
                    · exact hdistinct table (List.mem_cons_of_mem _ hmem)
                  · intro table hmem
                    rcases List.mem_cons.mp hmem with rfl | hmem
                    · exact hnew.members
                    · exact hmembers table (List.mem_cons_of_mem _ hmem)

theorem Tidy.addMember {dotted : Bool} {key : String} {value : Value} (hvalue : value.Tidy)
    (h : Tidy table) (hadd : table.addMember dotted key value = some table') : Tidy table' := by
  unfold Table.addMember at hadd
  split at hadd
  · obtain rfl := Option.some.inj hadd
    exact h.put key hvalue
  · simp at hadd

theorem Tidy.addSetting {path : Path} {value : Value} (hvalue : value.Tidy) (h : Tidy table)
    (hadd : table.addSetting path value = some table') : Tidy table' := by
  simp only [Table.addSetting, Option.bind_eq_bind, Option.bind_eq_some_iff] at hadd
  obtain ⟨⟨way, key⟩, -, hupdate⟩ := hadd
  exact h.update (fun htable => htable.addMember hvalue) way hupdate

theorem Tidy.addSettings {settings : List (Path × Value)}
    (hsettings : ∀ setting ∈ settings, setting.2.Tidy) (h : Tidy table)
    (hadd : table.addSettings settings = some table') : Tidy table' := by
  induction settings generalizing table with
  | nil =>
      obtain rfl := Option.some.inj hadd
      exact h
  | cons setting rest ih =>
      obtain ⟨path, value⟩ := setting
      simp only [Table.addSettings, Option.bind_eq_bind, Option.bind_eq_some_iff] at hadd
      obtain ⟨middle, hfirst, hmore⟩ := hadd
      have hmiddle := h.addSetting (hsettings _ List.mem_cons_self) hfirst
      exact ih (fun setting hsetting => hsettings setting (List.mem_cons_of_mem _ hsetting))
        hmiddle hmore

theorem Tidy.openHeader {path : Path} (h : Tidy table)
    (hopen : table.openHeader path = some table') : Tidy table' := by
  simp only [Table.openHeader, Option.bind_eq_bind, Option.bind_eq_some_iff] at hopen
  obtain ⟨⟨way, key⟩, -, hupdate⟩ := hopen
  refine h.update ?_ way hupdate
  intro table table' htable hchange
  split at hchange
  · obtain rfl := Option.some.inj hchange
    exact htable.put key (.table List.nodup_nil (by simp))
  · rename_i members hfound
    obtain rfl := Option.some.inj hchange
    cases htable.get? hfound with
    | table hdistinct hmembers => exact htable.put key (.table hdistinct hmembers)
  · simp at hchange

theorem Tidy.openEntry {path : Path} (h : Tidy table)
    (hopen : table.openEntry path = some table') : Tidy table' := by
  simp only [Table.openEntry, Option.bind_eq_bind, Option.bind_eq_some_iff] at hopen
  obtain ⟨⟨way, key⟩, -, hupdate⟩ := hopen
  refine h.update ?_ way hupdate
  intro table table' htable hchange
  split at hchange
  · obtain rfl := Option.some.inj hchange
    exact htable.put key (.entries (by simp [Distinct]) (by simp))
  · rename_i tables hfound
    obtain rfl := Option.some.inj hchange
    cases htable.get? hfound with
    | entries hdistinct hmembers =>
        refine htable.put key (.entries ?_ ?_)
        · simpa [Distinct] using hdistinct
        · simpa using hmembers
  · simp at hchange

end Table

mutual

theorem Term.tidy_value : ∀ (term : Term) {value : Value}, term.value = some value → value.Tidy
  | .scalar s, value, h => by
      obtain rfl := Option.some.inj h
      exact .scalar s
  | .array items, value, h => by
      simp only [Term.value, Option.bind_eq_bind, Option.bind_eq_some_iff] at h
      obtain ⟨values, hvalues, h⟩ := h
      obtain rfl := Option.some.inj h
      exact .array (tidy_termValues items hvalues)
  | .table members, value, h => by
      simp only [Term.value, Option.bind_eq_bind, Option.bind_eq_some_iff] at h
      obtain ⟨settings, hsettings, table, htable, h⟩ := h
      obtain rfl := Option.some.inj h
      have hinline : Table.Tidy (.inline, []) := ⟨List.nodup_nil, by simp⟩
      have hall := hinline.addSettings (tidy_memberValues members hsettings) htable
      exact .table hall.distinct hall.members

theorem tidy_termValues : ∀ (terms : List Term) {values : List Value},
    termValues terms = some values → ∀ value ∈ values, value.Tidy
  | [], values, h => by
      obtain rfl := Option.some.inj h
      simp
  | term :: rest, values, h => by
      simp only [termValues, Option.bind_eq_bind, Option.bind_eq_some_iff] at h
      obtain ⟨value, hvalue, more, hmore, h⟩ := h
      obtain rfl := Option.some.inj h
      exact List.forall_mem_cons.mpr ⟨term.tidy_value hvalue, tidy_termValues rest hmore⟩

theorem tidy_memberValues : ∀ (members : List (Path × Term)) {settings : List (Path × Value)},
    memberValues members = some settings → ∀ setting ∈ settings, setting.2.Tidy
  | [], settings, h => by
      obtain rfl := Option.some.inj h
      simp
  | (path, term) :: rest, settings, h => by
      simp only [memberValues, Option.bind_eq_bind, Option.bind_eq_some_iff] at h
      obtain ⟨value, hvalue, more, hmore, h⟩ := h
      obtain rfl := Option.some.inj h
      exact List.forall_mem_cons.mpr ⟨term.tidy_value hvalue, tidy_memberValues rest hmore⟩

end

/-- No line makes a name come twice. -/
theorem Outline.tidy_takeLine {outline outline' : Outline} {line : Line}
    (h : outline.root.Tidy) (htake : outline.takeLine line = some outline') :
    outline'.root.Tidy := by
  cases line with
  | setting path term =>
      simp only [Outline.takeLine, Option.bind_eq_bind, Option.bind_eq_some_iff] at htake
      obtain ⟨value, hvalue, root, hroot, htake⟩ := htake
      obtain rfl := Option.some.inj htake
      exact h.update (fun htable => htable.addSetting (term.tidy_value hvalue)) _ hroot
  | header path =>
      simp only [Outline.takeLine, Option.bind_eq_bind, Option.bind_eq_some_iff] at htake
      obtain ⟨root, hroot, htake⟩ := htake
      obtain rfl := Option.some.inj htake
      exact h.openHeader hroot
  | entryHeader path =>
      simp only [Outline.takeLine, Option.bind_eq_bind, Option.bind_eq_some_iff] at htake
      obtain ⟨root, hroot, htake⟩ := htake
      obtain rfl := Option.some.inj htake
      exact h.openEntry hroot

theorem Outline.tidy_foldlM {lines : List Line} {outline outline' : Outline}
    (h : outline.root.Tidy) (hfold : lines.foldlM takeLine outline = some outline') :
    outline'.root.Tidy := by
  induction lines generalizing outline with
  | nil =>
      obtain rfl := Option.some.inj hfold
      exact h
  | cons line rest ih =>
      rw [List.foldlM_cons, Option.bind_eq_bind, Option.bind_eq_some_iff] at hfold
      obtain ⟨middle, hfirst, hmore⟩ := hfold
      exact ih (tidy_takeLine h hfirst) hmore

/-- No name comes twice in a table of a document. -/
theorem Table.tidy_ofText? {text : String} {table : Table} (h : ofText? text = some table) :
    table.Tidy := by
  simp only [ofText?, Option.bind_eq_bind, Option.bind_eq_some_iff] at h
  obtain ⟨lines, -, outline, hfold, h⟩ := h
  obtain rfl := Option.some.inj h
  refine Outline.tidy_foldlM ?_ hfold
  exact ⟨List.nodup_nil, by simp⟩

end Toml

namespace Settings

/-- In no table of a tree does a name come twice. -/
inductive Node.Tidy : Node → Prop
  | leaf (origin : Origin) (value : Leaf) : Tidy (.leaf origin value)
  | list {origin : Origin} {items : List Node} (h : ∀ item ∈ items, Tidy item) :
      Tidy (.list origin items)
  | table {origin : Origin} {members : List (String × Node)} (hdistinct : Distinct members)
      (h : ∀ member ∈ members, Tidy member.2) : Tidy (.table origin members)

/-- In no table that begins with these members does a name come twice. -/
structure Tidy (members : Members Node) : Prop where
  distinct : Distinct members
  members : ∀ member ∈ members, member.2.Tidy

namespace Node

variable (origin : Origin)

theorem map_fst_ofTomlMembers (members : List (String × Toml.Value)) :
    (ofTomlMembers origin members).map Prod.fst = members.map Prod.fst := by
  induction members with
  | nil => rfl
  | cons member rest ih => simp [ofTomlMembers, ih]

mutual

theorem tidy_ofToml : ∀ (value : Toml.Value), value.Tidy → (ofToml origin value).Tidy
  | .scalar s, _ => .leaf origin (.ofScalar s)
  | .array items, h => by
      cases h with
      | array hitems => exact .list (tidy_ofTomlItems items hitems)
  | .entries tables, h => by
      cases h with
      | entries hdistinct hmembers =>
          refine .list ?_
          intro item hitem
          exact tidy_ofTomlTables tables hdistinct hmembers item (List.mem_reverse.mp hitem)
  | .table kind members, h => by
      cases h with
      | table hdistinct hmembers =>
          refine .table ?_ (tidy_ofTomlMembers members hmembers)
          rwa [Distinct, map_fst_ofTomlMembers]

theorem tidy_ofTomlItems : ∀ (items : List Toml.Value), (∀ item ∈ items, item.Tidy) →
    ∀ node ∈ ofTomlItems origin items, node.Tidy
  | [], _ => by simp [ofTomlItems]
  | item :: rest, h => by
      obtain ⟨hitem, hrest⟩ := List.forall_mem_cons.mp h
      exact List.forall_mem_cons.mpr ⟨tidy_ofToml item hitem, tidy_ofTomlItems rest hrest⟩

theorem tidy_ofTomlTables : ∀ (tables : List (Toml.TableKind × List (String × Toml.Value))),
    (∀ table ∈ tables, Distinct table.2) → (∀ table ∈ tables, ∀ member ∈ table.2, member.2.Tidy) →
    ∀ node ∈ ofTomlTables origin tables, node.Tidy
  | [], _, _ => by simp [ofTomlTables]
  | (kind, members) :: rest, hdistinct, h => by
      obtain ⟨hfirst, hothers⟩ := List.forall_mem_cons.mp hdistinct
      obtain ⟨hmembers, hrest⟩ := List.forall_mem_cons.mp h
      refine List.forall_mem_cons.mpr ⟨.table ?_ (tidy_ofTomlMembers members hmembers),
        tidy_ofTomlTables rest hothers hrest⟩
      rwa [Distinct, map_fst_ofTomlMembers]

theorem tidy_ofTomlMembers : ∀ (members : List (String × Toml.Value)),
    (∀ member ∈ members, member.2.Tidy) → ∀ member ∈ ofTomlMembers origin members, member.2.Tidy
  | [], _ => by simp [ofTomlMembers]
  | (key, value) :: rest, h => by
      obtain ⟨hvalue, hrest⟩ := List.forall_mem_cons.mp h
      exact List.forall_mem_cons.mpr ⟨tidy_ofToml value hvalue, tidy_ofTomlMembers rest hrest⟩

end

/-- Of members with one name the last counts, so none comes twice. -/
theorem tidy_ofList {list : List (String × Node)} (h : ∀ member ∈ list, member.2.Tidy) :
    Settings.Tidy (Members.ofList list) := by
  have hfold : ∀ {members : Members Node}, Settings.Tidy members →
      Settings.Tidy (list.foldl (fun members member => members.put member.1 member.2) members) := by
    induction list with
    | nil => exact fun hmembers => hmembers
    | cons first rest ih =>
        intro members hmembers
        obtain ⟨hfirst, hrest⟩ := List.forall_mem_cons.mp h
        refine ih hrest ⟨hmembers.distinct.put _ _, ?_⟩
        intro member hmember
        rcases Members.eq_or_mem_of_mem_put hmember with heq | hold
        · rwa [heq]
        · exact hmembers.members member hold
  exact hfold ⟨List.nodup_nil, by simp⟩

mutual

theorem tidy_ofJson? : ∀ (room : Nat) (tree : Json.Tree) {node : Node},
    ofJson? origin room tree = some node → node.Tidy
  | _, .null, node, h => by
      obtain rfl := Option.some.inj h
      exact .leaf _ _
  | _, .boolean b, node, h => by
      obtain rfl := Option.some.inj h
      exact .leaf _ _
  | _, .number n, node, h => by
      obtain ⟨value, -, rfl⟩ := Option.map_eq_some_iff.mp h
      exact .leaf _ _
  | _, .string s, node, h => by
      obtain ⟨value, -, rfl⟩ := Option.map_eq_some_iff.mp h
      exact .leaf _ _
  | room, .array items .closed, node, h => by
      rw [ofJson?] at h
      split at h
      · simp at h
      · obtain ⟨nodes, hnodes, rfl⟩ := Option.map_eq_some_iff.mp h
        exact .list (tidy_ofJsonItems? _ items hnodes)
  | room, .object members .closed, node, h => by
      rw [ofJson?] at h
      split at h
      · simp at h
      · obtain ⟨list, hlist, rfl⟩ := Option.map_eq_some_iff.mp h
        have htidy := tidy_ofList (tidy_ofJsonMembers? _ members hlist)
        exact .table htidy.distinct htidy.members
  | _, .array items (.broken problem afterComma), node, h => by simp [ofJson?] at h
  | _, .object members (.broken problem afterComma), node, h => by simp [ofJson?] at h
  | _, .broken problem, node, h => by simp [ofJson?] at h

theorem tidy_ofJsonItems? : ∀ (room : Nat) (trees : List Json.Tree) {nodes : List Node},
    ofJsonItems? origin room trees = some nodes → ∀ node ∈ nodes, node.Tidy
  | _, [], nodes, h => by
      obtain rfl := Option.some.inj h
      simp
  | room, tree :: rest, nodes, h => by
      simp only [ofJsonItems?, Option.bind_eq_bind, Option.bind_eq_some_iff] at h
      obtain ⟨node, hnode, more, hmore, h⟩ := h
      obtain rfl := Option.some.inj h
      exact List.forall_mem_cons.mpr
        ⟨tidy_ofJson? room tree hnode, tidy_ofJsonItems? room rest hmore⟩

theorem tidy_ofJsonMembers? : ∀ (room : Nat) (members : List (Json.StringText × Json.Tree))
    {read : List (String × Node)}, ofJsonMembers? origin room members = some read →
      ∀ member ∈ read, member.2.Tidy
  | _, [], read, h => by
      obtain rfl := Option.some.inj h
      simp
  | room, (key, tree) :: rest, read, h => by
      simp only [ofJsonMembers?, Option.bind_eq_bind, Option.bind_eq_some_iff] at h
      obtain ⟨name, -, node, hnode, more, hmore, h⟩ := h
      obtain rfl := Option.some.inj h
      exact List.forall_mem_cons.mpr
        ⟨tidy_ofJson? room tree hnode, tidy_ofJsonMembers? room rest hmore⟩

end

end Node

/-- In what a document is read as no name comes twice in a table. -/
def Format.IsTidy (format : Format) : Prop :=
  ∀ ⦃origin text members⦄, format.read? origin text = some members → Tidy members

theorem isTidy_toml : Format.toml.IsTidy := by
  intro origin text members h
  simp only [Format.toml, Option.bind_eq_bind, Option.bind_eq_some_iff] at h
  obtain ⟨⟨kind, read⟩, hread, h⟩ := h
  obtain rfl := Option.some.inj h
  have htable := Toml.Table.tidy_ofText? hread
  refine ⟨?_, Node.tidy_ofTomlMembers origin read htable.members⟩
  rw [Distinct, Node.map_fst_ofTomlMembers]
  exact htable.distinct

theorem isTidy_json : Format.json.IsTidy := by
  intro origin text members h
  simp only [Format.json] at h
  split at h
  · rename_i hsurplus hread
    obtain rfl := Option.some.inj h
    cases Node.tidy_ofJson? origin jsonDepth _ hread with
    | table hdistinct hmembers => exact ⟨hdistinct, hmembers⟩
  · simp at h

/-- The known formats are tidy. -/
theorem isTidy_of_mem_known {format : Format} (h : format ∈ Format.known) : format.IsTidy := by
  rcases List.mem_pair.mp h with rfl | rfl
  · exact isTidy_toml
  · exact isTidy_json

theorem Tidy.below {members : Members Node} (h : Tidy members) (name : String) :
    Tidy (below members name) := by
  unfold Settings.below
  cases hfound : members.get? name with
  | none => exact ⟨List.nodup_nil, by simp [Node.tableBelow]⟩
  | some node =>
      cases h.members _ (Members.mem_of_get? hfound) with
      | leaf origin value => exact ⟨List.nodup_nil, by simp [Node.tableBelow]⟩
      | list hitems => exact ⟨List.nodup_nil, by simp [Node.tableBelow]⟩
      | table hdistinct hmembers => exact ⟨hdistinct, hmembers⟩

theorem Tidy.clear {members : Members Node} (h : Tidy members) (hsections : Sectioned members)
    (key : Key) : Clear key.sections members := by
  have hlogger := (h.below "logger").distinct
  have hconsole := (h.below "console").distinct
  have hcolors := ((h.below "console").below "colors").distinct
  cases key with
  | colorOf level =>
      exact ⟨h.distinct, hsections.console, hconsole, hsections.colors, hcolors⟩
  | color => exact ⟨h.distinct, hsections.console, hconsole⟩
  | nodeName => exact ⟨h.distinct, hsections.logger, hlogger⟩
  | minLevel => exact ⟨h.distinct, hsections.logger, hlogger⟩
  | localOutput => exact ⟨h.distinct, hsections.logger, hlogger⟩
  | sequenceStart => exact ⟨h.distinct, hsections.logger, hlogger⟩

/-- A file that was read is proper when its names are plain and its sections are tables. -/
theorem proper_of_members {file : SourceFile} {members : Members Node}
    (hformat : file.format.IsTidy) (h : file.members = .ok members)
    (hplain : ∀ name ∈ members.map Prod.fst, IsPlain name) (hsections : Sectioned members) :
    Proper members :=
  ⟨hplain, (hformat (readDocument_eq_ok_iff.mp h)).clear hsections⟩

end Settings

end Logbook
