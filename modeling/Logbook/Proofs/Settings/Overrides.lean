/-
Settings from the environment.  An environment that sets some settings has the same outcome as a
file in which their values were edited: each setting is decided by the uppermost source that names
it, the environment above the file and the file above the built-in settings, and the value that
decides is the only one that has to be right.  Main statement: `override_eq_edit`.
-/
import Logbook.Proofs.Settings.Parsed
import Logbook.Settings.File
import Mathlib

namespace Logbook

namespace Settings

namespace Key

/-- The built-in settings are the defaults, and what they leave out is one too. -/
theorem reading_builtIn (key : Key) : key.reading (key.find? builtIn) = some (key.get {}) := by
  rcases key with - | - | - | - | - | (- | - | - | - | -)
  case minLevel => cbv
  all_goals rfl

/-- A setting is no table, so it reads the same after its value was laid over another one. -/
theorem reading_layOver (key : Key) (found : Option Node) (node : Node) :
    key.reading (some (Node.layOver found node)) = key.reading (some node) := by
  cases node with
  | leaf origin value => rfl
  | list origin items => rfl
  | table origin members => rw [reading_table, Node.layOver, reading_table]

/-- Over the built-in settings a table reads as it does alone. -/
theorem reading_layMembers_builtIn (key : Key) {members : Members Node}
    (h : Clear key.sections members) :
    key.reading (key.find? (Node.layMembers builtIn members)) = key.reading (key.find? members) := by
  rw [key.find?_layMembers h]
  cases key.find? members with
  | none => exact key.reading_builtIn
  | some node => exact key.reading_layOver _ node

end Key

theorem clear_builtIn (key : Key) : Clear key.sections builtIn := by
  cases key <;>
    simp [Clear, Key.sections, builtIn, Distinct, IsSection, below, Members.get?, Node.tableBelow]

/-- The variables of settings set them. -/
theorem sets_variables (overrides : List (Key × String)) :
    Sets (overrides.map fun (key, text) => (key.variableName, text)) overrides := by
  induction overrides with
  | nil => rfl
  | cons override rest ih =>
      obtain ⟨key, text⟩ := override
      simp only [Sets, Environment.members, List.map_cons] at ih ⊢
      rw [List.filterMap_cons, Key.key?_variableName, ih]
      rfl

/-- An environment whose variables name settings, or nothing that is set, sets just some
settings. -/
theorem exists_sets {environment : List (String × String)}
    (h : ∀ entry ∈ environment, ∀ text, Environment.key? entry.1 = some text →
      ∃ key : Key, key.text = text) :
    ∃ overrides, Sets environment overrides := by
  induction environment with
  | nil => exact ⟨[], rfl⟩
  | cons entry rest ih =>
      obtain ⟨overrides, hrest⟩ := ih fun entry hentry => h entry (List.mem_cons_of_mem _ hentry)
      simp only [Sets, Environment.members] at hrest ⊢
      cases hkey : Environment.key? entry.1 with
      | none => exact ⟨overrides, by rw [List.filterMap_cons, hkey]; exact hrest⟩
      | some text =>
          obtain ⟨key, rfl⟩ := h entry List.mem_cons_self text hkey
          refine ⟨(key, entry.2) :: overrides, ?_⟩
          rw [List.filterMap_cons, hkey, hrest]
          rfl

/-- A file with other texts for some settings. -/
def edit (origin : Origin) (overrides : List (Key × String)) (file : Members Node) :
    Members Node :=
  overwrite origin origin overrides file

/-- What decides a setting: the environment, or else the file, or else the built-in settings. -/
def decider (overrides : List (Key × String)) (file : Members Node) (key : Key) : Option Node :=
  ((lastFor key overrides).map fun text => .leaf .environment (.text text)).or
    ((key.find? file).or (key.find? builtIn))

section Decided

variable {file : Members Node} {environment : List (String × String)}
  {overrides : List (Key × String)}

theorem Proper.write (h : Proper file) (key : Key) (made : Origin) (node : Node) :
    Proper (key.write made node file) := by
  constructor
  · intro name hname
    rcases mem_names_write hname with hold | hnew
    · exact h.plain name hold
    · have hsections : ∀ key ∈ Key.all, ∀ first ∈ key.path.head?, IsPlain first := by
        decide +kernel
      exact hsections key key.mem_all name hnew
  · exact fun other => clear_write (h.clear other) (key.outside other)

theorem Proper.edit (h : Proper file) (origin : Origin) : Proper (edit origin overrides file) := by
  induction overrides generalizing file with
  | nil => exact h
  | cons override rest ih => exact ih (h.write override.1 origin _)

/-- The tree of all sources. -/
theorem ofSources_eq (h : Proper file) (hsets : Sets environment overrides) :
    ofSources [file, Environment.members environment] =
      ofMembers (overwrite .unnamed .environment overrides (Node.layMembers builtIn file)) := by
  rw [ofSources, List.foldl_cons, List.foldl_cons, List.foldl_nil, layer_eq_layMembers h.plain,
    layer_members hsets]

/-- Each setting of the tree of all sources reads as what decides it. -/
theorem Key.reading_decider (h : Proper file) (key : Key) :
    key.reading (key.find? (overwrite .unnamed .environment overrides
      (Node.layMembers builtIn file))) = key.reading (decider overrides file key) := by
  rw [Key.find?_overwrite, decider]
  cases lastFor key overrides with
  | some text => rfl
  | none =>
      have hread := key.reading_layMembers_builtIn (h.clear key)
      refine hread.trans ?_
      cases hfile : key.find? file with
      | some node => rfl
      | none => exact key.reading_builtIn.symm

theorem sectioned_all (h : Proper file) :
    Sectioned (overwrite .unnamed .environment overrides (Node.layMembers builtIn file)) :=
  sectioned_of_clear (clear_overwrite fun key => clear_layMembers (clear_builtIn key) (h.clear key))

theorem ofSources_eq_ok_iff (h : Proper file) (hsets : Sets environment overrides)
    {settings : Settings} :
    ofSources [file, Environment.members environment] = .ok settings ↔
      ∀ key : Key, key.reading (decider overrides file key) = some (key.get settings) := by
  rw [ofSources_eq h hsets, ofMembers_eq_ok_iff (sectioned_all h)]
  simp only [Key.reading_decider h]

/-- Whether a text stands in the environment or in the file makes no difference for what a setting
reads as. -/
theorem Key.reading_edit (origin : Origin) (key : Key) :
    key.reading (decider [] (edit origin overrides file) key) =
      key.reading (decider overrides file key) := by
  rw [decider, decider, edit, Key.find?_overwrite]
  cases lastFor key overrides with
  | some text => exact key.reading_leaf origin .environment (.text text)
  | none => rfl

theorem sets_nil : Sets [] [] := rfl

/-- An environment over a file has the outcome of the edited file alone. -/
theorem toOption_ofSources_edit (h : Proper file) (hsets : Sets environment overrides)
    (origin : Origin) :
    (ofSources [file, Environment.members environment]).toOption =
      (ofSources [edit origin overrides file, Environment.members []]).toOption := by
  apply Option.ext
  intro settings
  rw [toOption_eq_some_iff, toOption_eq_some_iff, ofSources_eq_ok_iff h hsets,
    ofSources_eq_ok_iff (h.edit origin) sets_nil]
  simp only [Key.reading_edit]

/-- What an environment that sets some settings does over a file. -/
structure Overridden (file : Members Node) (environment : List (String × String))
    (overrides : List (Key × String)) : Prop where
  /-- The outcome is that of the edited file alone. -/
  sources : ∀ origin, (ofSources [file, Environment.members environment]).toOption =
    (ofSources [edit origin overrides file, Environment.members []]).toOption
  /-- So it is for files that were read. -/
  files : ∀ (source edited : SourceFile) (origin : Origin),
    source.members = .ok file → edited.members = .ok (edit origin overrides file) →
    (load (some source) environment).toOption = (load (some edited) []).toOption
  /-- And for files of any formats that were found by a path. -/
  paths : ∀ (formats : List Format) (files edited : Files) (path : String) (found : FilePath)
    (format : Format) (bytes bytes' : List UInt8) (origin : Origin),
    (FilePath.ofText path).locate formats files.isFile = some (found, format) →
    (FilePath.ofText path).locate formats edited.isFile = some (found, format) →
    files.bytes? found = some bytes → edited.bytes? found = some bytes' →
    SourceFile.members ⟨found.text, format, Text.ofBytes bytes⟩ = .ok file →
    SourceFile.members ⟨found.text, format, Text.ofBytes bytes'⟩ =
      .ok (edit origin overrides file) →
    (loadFrom formats files path environment).toOption =
      (loadFrom formats edited path []).toOption
  /-- Each setting is decided by the uppermost source that names it. -/
  decided : ∀ settings, ofSources [file, Environment.members environment] = .ok settings ↔
    ∀ key : Key, key.reading (decider overrides file key) = some (key.get settings)
  /-- A value that is wrong is a problem exactly when it decides. -/
  refused : (ofSources [file, Environment.members environment]).toOption = none ↔
    ∃ key : Key, key.reading (decider overrides file key) = none
  /-- A setting stays as it is when other settings are set. -/
  others : ∀ environment' overrides' settings settings' (key : Key),
    Sets environment' overrides' → lastFor key overrides' = lastFor key overrides →
    ofSources [file, Environment.members environment] = .ok settings →
    ofSources [file, Environment.members environment'] = .ok settings' →
    key.get settings' = key.get settings

/-- To set settings in the environment is to edit them in the file. -/
theorem override_eq_edit (h : Proper file) (hsets : Sets environment overrides) :
    Overridden file environment overrides := by
  constructor
  case sources => exact toOption_ofSources_edit h hsets
  case files =>
    intro source edited origin hsource hedited
    simp only [load, hsource, hedited]
    exact toOption_ofSources_edit h hsets origin
  case paths =>
    intro formats files edited path found format bytes bytes' origin hfound hfound' hbytes hbytes'
      hsource hedited
    simp only [loadFrom, hfound, hfound', hbytes, hbytes', load, hsource, hedited, bind,
      Option.bind, pure]
    exact toOption_ofSources_edit h hsets origin
  case decided => exact fun settings => ofSources_eq_ok_iff h hsets
  case refused =>
    rw [ofSources_eq h hsets, ofMembers_eq_none_iff (sectioned_all h)]
    simp only [Key.reading_decider h]
  case others =>
    intro environment' overrides' settings settings' key hsets' hsame hok hok'
    have hread := (ofSources_eq_ok_iff h hsets).mp hok key
    have hread' := (ofSources_eq_ok_iff h hsets').mp hok' key
    have hdecider : decider overrides' file key = decider overrides file key := by
      rw [decider, hsame, decider]
    rw [hdecider, hread] at hread'
    exact (Option.some.inj hread').symm

end Decided

end Settings

namespace OverridesWitness

open Settings

/-- A file with a wrong level, an unknown key and a number for a colour. -/
def source : SourceFile where
  name := "arm.toml"
  format := .toml
  text := "[logger]\nmin_level = 'loud'\nframe = 'base'\n[console.colors]\nwarn = 5"

/-- The table of the file. -/
def file : Members Node :=
  let origin := Origin.file "arm.toml"
  [("logger", .table origin [("min_level", .leaf origin (.text "loud")),
      ("frame", .leaf origin (.text "base"))]),
    ("console", .table origin [("colors", .table origin [("warn", .leaf origin (.integer 5))])])]

def environment : List (String × String) :=
  [("NODELOG_LOGGER__MIN_LEVEL", "warn"), ("nodelog_console__color", "")]

/-- What the environment sets. -/
def overrides : List (Key × String) :=
  [(.minLevel, "warn"), (.color, "")]

theorem override_eq_edit_file : (Proper file ∧ Sets environment overrides) ∧
    Overridden file environment overrides := by
  have hmembers : source.members = .ok file := by cbv
  have hknown : source.format ∈ Format.known := List.mem_cons_self
  have hproper : Proper file := proper_of_members (isTidy_of_mem_known hknown) hmembers
    (by decide) ⟨trivial, trivial, trivial⟩
  have hsets : Sets environment overrides := by
    unfold Sets
    cbv
  exact ⟨⟨hproper, hsets⟩, override_eq_edit hproper hsets⟩

end OverridesWitness

end Logbook
