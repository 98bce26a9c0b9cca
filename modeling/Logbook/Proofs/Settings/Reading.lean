/-
Which value decides each setting.  There are ten settings, each under a name in a section.  A table
whose sections are tables reads as settings exactly when each of the ten reads by itself, from what
stands under its name or else from its default; so what stands elsewhere does not count, and a
setting does not change another one.  Main statement: `ofMembers_eq_ok_iff`.
-/
import Logbook.Proofs.Except
import Logbook.Settings

namespace Logbook

namespace Settings

/-- The settings, one by one. -/
inductive Key where
  | nodeName
  | minLevel
  | localOutput
  | sequenceStart
  | color
  | colorOf (level : Level)
  deriving DecidableEq, Repr

namespace Key

/-- The sections around a setting, the outermost first. -/
def sections : Key → List String
  | .nodeName => ["logger"]
  | .minLevel => ["logger"]
  | .localOutput => ["logger"]
  | .sequenceStart => ["logger"]
  | .color => ["console"]
  | .colorOf _ => ["console", "colors"]

/-- The name of a setting in its section. -/
def name : Key → String
  | .nodeName => "node_name"
  | .minLevel => "min_level"
  | .localOutput => "local_output"
  | .sequenceStart => "sequence_start"
  | .color => "color"
  | .colorOf .debug => "debug"
  | .colorOf .info => "info"
  | .colorOf .warn => "warn"
  | .colorOf .error => "error"
  | .colorOf .fatal => "fatal"

/-- The names on the way to a setting, its own last. -/
def path (key : Key) : List String :=
  key.sections ++ [key.name]

/-- What kind of value a setting has. -/
def Value : Key → Type
  | .nodeName => String
  | .minLevel => Level
  | .localOutput => Bool
  | .sequenceStart => UInt32
  | .color => Bool
  | .colorOf _ => String

/-- How the value of a setting is read. -/
def convert : (key : Key) → Conversion key.Value
  | .nodeName => Conversion.text
  | .minLevel => Conversion.level
  | .localOutput => Conversion.boolean
  | .sequenceStart => Conversion.word
  | .color => Conversion.boolean
  | .colorOf _ => Conversion.text

/-- The value of a setting among all settings. -/
def get : (key : Key) → Settings → key.Value
  | .nodeName, settings => settings.logger.nodeName
  | .minLevel, settings => settings.logger.minLevel
  | .localOutput, settings => settings.logger.localOutput
  | .sequenceStart, settings => settings.logger.sequenceStart
  | .color, settings => settings.console.color
  | .colorOf level, settings => settings.console.colors.get level

/-- The place of a setting, as complaints about it show. -/
def place (key : Key) : Place :=
  (key.path.map .key).reverse

/-- What a setting is, given what was found under its name. -/
def reading (key : Key) : Option Node → Option key.Value
  | none => some (key.get {})
  | some node => (key.convert key.place node).toOption

/-- All settings. -/
def all : List Key :=
  [.nodeName, .minLevel, .localOutput, .sequenceStart, .color] ++ Level.all.map .colorOf

theorem mem_all (key : Key) : key ∈ all := by
  rcases key with - | - | - | - | - | (- | - | - | - | -) <;> decide

/-- A property of all settings, setting by setting. -/
theorem forall_iff {P : Key → Prop} :
    (∀ key, P key) ↔ (P .nodeName ∧ P .minLevel ∧ P .localOutput ∧ P .sequenceStart) ∧
      P .color ∧ ∀ level, P (.colorOf level) := by
  constructor
  · exact fun h => ⟨⟨h _, h _, h _, h _⟩, h _, fun level => h _⟩
  · rintro ⟨⟨hnode, hmin, hlocal, hstart⟩, hcolor, hcolors⟩ key
    cases key <;> first | assumption | exact hcolors _

end Key

/-- The settings with given values. -/
def ofValues (values : (key : Key) → key.Value) : Settings where
  logger := ⟨values .nodeName, values .minLevel, values .localOutput, values .sequenceStart⟩
  console := ⟨values .color, ⟨values (.colorOf .debug), values (.colorOf .info),
    values (.colorOf .warn), values (.colorOf .error), values (.colorOf .fatal)⟩⟩

@[simp] theorem get_ofValues (values : (key : Key) → key.Value) (key : Key) :
    key.get (ofValues values) = values key := by
  rcases key with - | - | - | - | - | (- | - | - | - | -) <;> rfl

/-- The members of a section, none where there is no table. -/
def below (members : Members Node) (name : String) : Members Node :=
  (Node.tableBelow (members.get? name)).2

/-- Where something stands in a section, the section is a table. -/
theorem exists_table_of_get?_below {members : Members Node} {name inside : String} {node : Node}
    (h : (below members name).get? inside = some node) :
    ∃ (origin : Origin) (inner : Members Node),
      members.get? name = some (.table origin inner) ∧ inner.get? inside = some node := by
  unfold below at h
  cases hfound : members.get? name with
  | none => exact absurd h (by simp [hfound, Node.tableBelow, Members.get?])
  | some outer =>
      rw [hfound] at h
      cases outer with
      | table origin inner => exact ⟨origin, inner, rfl, h⟩
      | leaf origin value => exact absurd h (by simp [Node.tableBelow, Members.get?])
      | list origin items => exact absurd h (by simp [Node.tableBelow, Members.get?])

/-- What stands under a name in nested sections. -/
def find? : List String → String → Members Node → Option Node
  | [], name, members => members.get? name
  | first :: rest, name, members => find? rest name (below members first)

/-- What stands under the name of a setting. -/
def Key.find? (key : Key) (members : Members Node) : Option Node :=
  Settings.find? key.sections key.name members

/-- A section may stand here: a table, or nothing. -/
def IsSection : Option Node → Prop
  | none => True
  | some (.table _ _) => True
  | some _ => False

/-- The sections in which the settings stand are tables, or absent. -/
structure Sectioned (members : Members Node) : Prop where
  logger : IsSection (members.get? "logger")
  console : IsSection (members.get? "console")
  colors : IsSection ((below members "console").get? "colors")

/-- What a part of a section is, given how it is read, what was found, and what it is otherwise. -/
def pick {α : Type} (read : Node → Except Problem α) (found : Option Node) (otherwise : α) :
    Option α :=
  match found with
  | none => some otherwise
  | some node => (read node).toOption

section Members

variable {σ α : Type}

@[simp] theorem readMembers_nil (place : Place) (fields : List (Field σ)) (value : σ) :
    Section.readMembers place [] fields value = .ok value := by
  induction fields with
  | nil => rfl
  | cons field rest ih => exact ih

theorem readMembers_done (place : Place) (members : Members Node) (value : σ) :
    Section.readMembers place members [] value = .ok value := rfl

/-- The first field is read by itself, and the others after it. -/
theorem readMembers_cons (get : σ → α) (set : σ → α → σ) (hset : ∀ whole, set whole (get whole) = whole)
    {place : Place} {members : Members Node} {name : String} {conversion : Conversion α}
    {fields : List (Field σ)} {value result : σ} :
    Section.readMembers place members (.of name conversion set :: fields) value = .ok result ↔
      ∃ part, pick (conversion (.key name :: place)) (members.get? name) (get value) = some part ∧
        Section.readMembers place members fields (set value part) = .ok result := by
  cases hfound : members.get? name with
  | none => simp [Section.readMembers, Field.of, hfound, pick, hset, bind, Except.bind]
  | some node =>
      cases hread : conversion (.key name :: place) node <;>
        simp [Section.readMembers, Field.of, hfound, pick, hread, bind, Except.bind, Except.map,
          Except.toOption]

/-- A section that is a table or absent is read from its members. -/
theorem pick_read (layout : Section σ) (place : Place) {members : Members Node} {name : String}
    (h : IsSection (members.get? name)) {result : σ} :
    pick (layout.read place) (members.get? name) layout.default = some result ↔
      Section.readMembers place (below members name) layout.fields layout.default = .ok result := by
  unfold below
  cases hfound : members.get? name with
  | none => simp [pick, Node.tableBelow]
  | some node =>
      rw [hfound] at h
      cases node with
      | leaf origin value => exact h.elim
      | list origin items => exact h.elim
      | table origin inner => exact toOption_eq_some_iff

end Members

/-- The section of the logger is read setting by setting. -/
theorem readMembers_logger {place : Place} {members : Members Node} {result : LoggerSettings} :
    Section.readMembers place members LoggerSettings.layout.fields {} = .ok result ↔
      pick (Conversion.text (.key "node_name" :: place)) (members.get? "node_name") fallbackName =
          some result.nodeName ∧
        pick (Conversion.level (.key "min_level" :: place)) (members.get? "min_level") .debug =
          some result.minLevel ∧
        pick (Conversion.boolean (.key "local_output" :: place)) (members.get? "local_output")
          true = some result.localOutput ∧
        pick (Conversion.word (.key "sequence_start" :: place)) (members.get? "sequence_start") 0 =
          some result.sequenceStart := by
  simp only [LoggerSettings.layout,
    readMembers_cons LoggerSettings.nodeName (fun s nodeName => { s with nodeName }) fun _ => rfl,
    readMembers_cons LoggerSettings.minLevel (fun s minLevel => { s with minLevel }) fun _ => rfl,
    readMembers_cons LoggerSettings.localOutput (fun s localOutput => { s with localOutput })
      fun _ => rfl,
    readMembers_cons LoggerSettings.sequenceStart (fun s sequenceStart => { s with sequenceStart })
      fun _ => rfl, readMembers_done]
  constructor
  · rintro ⟨node, hnode, min, hmin, on, hon, start, hstart, hresult⟩
    obtain rfl := Except.ok.inj hresult
    exact ⟨hnode, hmin, hon, hstart⟩
  · rintro ⟨hnode, hmin, hon, hstart⟩
    exact ⟨_, hnode, _, hmin, _, hon, _, hstart, rfl⟩

/-- The section of the colours is read level by level. -/
theorem readMembers_colors {place : Place} {members : Members Node} {result : PerLevel String} :
    Section.readMembers place members Palette.layout.fields Palette.defaultNames = .ok result ↔
      ∀ level, pick (Conversion.text (.key (Key.colorOf level).name :: place))
        (members.get? (Key.colorOf level).name) (Palette.defaultNames.get level) =
          some (result.get level) := by
  simp only [Palette.layout,
    readMembers_cons PerLevel.debug (fun s debug => { s with debug }) fun _ => rfl,
    readMembers_cons PerLevel.info (fun s info => { s with info }) fun _ => rfl,
    readMembers_cons PerLevel.warn (fun s warn => { s with warn }) fun _ => rfl,
    readMembers_cons PerLevel.error (fun s error => { s with error }) fun _ => rfl,
    readMembers_cons PerLevel.fatal (fun s fatal => { s with fatal }) fun _ => rfl,
    readMembers_done]
  constructor
  · rintro ⟨debug, hdebug, info, hinfo, warn, hwarn, error, herror, fatal, hfatal, hresult⟩
    obtain rfl := Except.ok.inj hresult
    intro level
    cases level <;> assumption
  · intro h
    exact ⟨_, h .debug, _, h .info, _, h .warn, _, h .error, _, h .fatal, rfl⟩

theorem readMembers_console {place : Place} {members : Members Node} {result : ConsoleSettings} :
    Section.readMembers place members ConsoleSettings.layout.fields {} = .ok result ↔
      pick (Conversion.boolean (.key "color" :: place)) (members.get? "color") true =
          some result.color ∧
        pick (Palette.layout.read (.key "colors" :: place)) (members.get? "colors")
          Palette.defaultNames = some result.colors := by
  simp only [ConsoleSettings.layout,
    readMembers_cons ConsoleSettings.color (fun s color => { s with color }) fun _ => rfl,
    readMembers_cons ConsoleSettings.colors (fun s colors => { s with colors }) fun _ => rfl,
    readMembers_done]
  constructor
  · rintro ⟨color, hcolor, colors, hcolors, hresult⟩
    obtain rfl := Except.ok.inj hresult
    exact ⟨hcolor, hcolors⟩
  · rintro ⟨hcolor, hcolors⟩
    exact ⟨_, hcolor, _, hcolors, rfl⟩

theorem readMembers_settings {place : Place} {members : Members Node} {result : Settings} :
    Section.readMembers place members layout.fields {} = .ok result ↔
      pick (LoggerSettings.layout.read (.key "logger" :: place)) (members.get? "logger") {} =
          some result.logger ∧
        pick (ConsoleSettings.layout.read (.key "console" :: place)) (members.get? "console") {} =
          some result.console := by
  simp only [layout,
    readMembers_cons Settings.logger (fun s logger => { s with logger }) fun _ => rfl,
    readMembers_cons Settings.console (fun s console => { s with console }) fun _ => rfl,
    readMembers_done]
  constructor
  · rintro ⟨logger, hlogger, console, hconsole, hresult⟩
    obtain rfl := Except.ok.inj hresult
    exact ⟨hlogger, hconsole⟩
  · rintro ⟨hlogger, hconsole⟩
    exact ⟨_, hlogger, _, hconsole, rfl⟩

theorem readMembers_settings_iff {members : Members Node} (h : Sectioned members)
    {result : Settings} :
    Section.readMembers [] members layout.fields {} = .ok result ↔
      Section.readMembers [.key "logger"] (below members "logger") LoggerSettings.layout.fields {} =
          .ok result.logger ∧
        Section.readMembers [.key "console"] (below members "console")
          ConsoleSettings.layout.fields {} = .ok result.console :=
  readMembers_settings.trans
    (and_congr (pick_read LoggerSettings.layout _ h.logger)
      (pick_read ConsoleSettings.layout _ h.console))

theorem Key.reading_eq (key : Key) (found : Option Node) :
    key.reading found = pick (key.convert key.place) found (key.get {}) := by
  cases found <;> rfl

/-- A tree whose sections are tables reads as settings exactly when each setting reads by
itself. -/
theorem ofMembers_eq_ok_iff {members : Members Node} (h : Sectioned members)
    {settings : Settings} :
    ofMembers members = .ok settings ↔
      ∀ key : Key, key.reading (key.find? members) = some (key.get settings) := by
  have hsections : ofMembers members = .ok settings ↔ _ := readMembers_settings_iff h
  rw [hsections, readMembers_logger, readMembers_console, Key.forall_iff]
  simp only [Key.reading_eq]
  exact and_congr Iff.rfl
    (and_congr Iff.rfl ((pick_read Palette.layout _ h.colors).trans readMembers_colors))

/-- Trees in which all settings read the same are the same settings, or none is. -/
theorem ofMembers_congr {members members' : Members Node} (h : Sectioned members)
    (h' : Sectioned members')
    (hreading : ∀ key : Key, key.reading (key.find? members) = key.reading (key.find? members')) :
    (ofMembers members).toOption = (ofMembers members').toOption := by
  apply Option.ext
  intro settings
  rw [toOption_eq_some_iff, toOption_eq_some_iff, ofMembers_eq_ok_iff h, ofMembers_eq_ok_iff h']
  simp only [hreading]

/-- A tree is refused exactly when one of the settings is. -/
theorem ofMembers_eq_none_iff {members : Members Node} (h : Sectioned members) :
    (ofMembers members).toOption = none ↔
      ∃ key : Key, key.reading (key.find? members) = none := by
  constructor
  · intro hnone
    apply Classical.byContradiction
    intro hall
    have hsome : ∀ key : Key, (key.reading (key.find? members)).isSome := by
      intro key
      rw [Option.isSome_iff_ne_none]
      exact fun hkey => hall ⟨key, hkey⟩
    let values (key : Key) : key.Value := (key.reading (key.find? members)).get (hsome key)
    have hok : ofMembers members = .ok (ofValues values) := by
      rw [ofMembers_eq_ok_iff h]
      intro key
      rw [get_ofValues, Option.some_get]
    rw [hok] at hnone
    exact Option.some_ne_none _ hnone
  · rintro ⟨key, hkey⟩
    rw [Option.eq_none_iff_forall_ne_some]
    intro settings hsettings
    rw [toOption_eq_some_iff, ofMembers_eq_ok_iff h] at hsettings
    rw [hsettings key] at hkey
    exact Option.some_ne_none _ hkey

section Leaf

variable (place : Place) (origin origin' : Origin) (value : Leaf)

theorem toOption_boolean_leaf : (Conversion.boolean place (.leaf origin value)).toOption =
    (Conversion.boolean place (.leaf origin' value)).toOption := by
  cases value with
  | text s =>
      simp only [Conversion.boolean]
      cases Conversion.switchOrDigit? (Text.lower s) <;> rfl
  | _ => rfl

theorem toOption_natural_leaf : (Conversion.natural place (.leaf origin value)).toOption =
    (Conversion.natural place (.leaf origin' value)).toOption := by
  cases value with
  | text s =>
      simp only [Conversion.natural]
      cases Conversion.switch? (Text.lower s) <;> cases Conversion.decimal? s <;> rfl
  | integer i =>
      simp only [Conversion.natural]
      split <;> rfl
  | _ => rfl

theorem toOption_text_leaf : (Conversion.text place (.leaf origin value)).toOption =
    (Conversion.text place (.leaf origin' value)).toOption := by
  cases value <;> rfl

/-- A value without parts reads the same wherever it came from. -/
theorem Key.reading_leaf (key : Key) :
    key.reading (some (.leaf origin value)) = key.reading (some (.leaf origin' value)) := by
  cases key with
  | nodeName => exact toOption_text_leaf _ origin origin' value
  | minLevel => exact toOption_bind_congr (toOption_text_leaf _ origin origin' value)
  | localOutput => exact toOption_boolean_leaf _ origin origin' value
  | sequenceStart => exact toOption_bind_congr (toOption_natural_leaf _ origin origin' value)
  | color => exact toOption_boolean_leaf _ origin origin' value
  | colorOf level => exact toOption_text_leaf _ origin origin' value

end Leaf

/-- No setting is a table. -/
theorem Key.reading_table (key : Key) (origin : Origin) (members : Members Node) :
    key.reading (some (.table origin members)) = none := by
  cases key <;> rfl

end Settings

end Logbook
