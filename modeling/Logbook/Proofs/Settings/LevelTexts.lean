/-
Texts read as levels.  A level is read from a text by itself, from a JSON string, and from a text
under its name in sources of settings.  All of them take the same texts for the same level: with any
other level shown in its place the settings are the same up to the level, and a text that names no
level is all that is complained about.  What replacing the text does is followed through the sources
as a relation of trees that differ at most in the level.  Main statement: `Level.read_alike`.
-/
import Logbook.Proofs.LevelNames
import Logbook.Proofs.RecordWire
import Logbook.Proofs.Settings.Defaults

namespace Logbook

open Json in
/-- A level is read from a JSON string as from its text. -/
theorem Json.Reader.levelName_ofText {text s : String} (h : Reader.text.ofText text = .ok s) :
    Reader.levelName.ofText text =
      (Level.parse s).mapError fun unknown => .mistaken (.unknownLevel unknown) := by
  simp only [Reader.ofText] at h ⊢
  generalize Document.ofText text = document at h ⊢
  obtain ⟨value, hvalue, hend⟩ := exists_of_bind_eq_ok h
  obtain ⟨hsurplus, rfl⟩ : document.surplus = false ∧ value = s := by
    cases hsurplus : document.surplus <;> simp_all
  simp only [Reader.levelName, hvalue, hsurplus, bind, Except.bind]
  cases Level.parse value <;> rfl

open Json in
/-- Every text is that of a JSON string. -/
theorem Json.Reader.text_ofText (s : String) :
    Reader.text.ofText (Value.ofString s).text = .ok s := by
  have hproper : (Value.ofString s).Proper := trivial
  have hwrites := Value.writes hproper blank_nil blank_nil
  rw [String.ofList_nil, String.empty_append, String.append_empty] at hwrites
  rw [Reader.ofText, hwrites.ofText]
  exact (bind_pure _).trans (Reader.text_ofString s)

namespace Settings

/-- The same settings, but for the level. -/
def withLevel (settings : Settings) (level : Level) : Settings :=
  { settings with logger := { settings.logger with minLevel := level } }

/-- The settings other than the level that are read from a tree. -/
def OthersRead (tree : Members Node) (settings : Settings) : Prop :=
  (∀ key ∈ [Key.nodeName, .localOutput, .sequenceStart],
    key.reading (key.find? tree) = some (key.get settings)) ∧
  pick (ConsoleSettings.layout.read [.key "console"]) (tree.get? "console") {} =
    some settings.console

section Tree

variable {tree tree' : Members Node} {origin : Origin} {s : String}

/-- A tree with a text for the level is read as that text and the other settings are, each by
itself. -/
theorem ofMembers_of_text (h : Key.find? .minLevel tree = some (.leaf origin (.text s)))
    {settings : Settings} :
    ofMembers tree = .ok settings ↔
      Level.parse s = .ok settings.logger.minLevel ∧ OthersRead tree settings := by
  obtain ⟨outer, inner, hlogger, -⟩ := exists_table_of_get?_below h
  have hsection : IsSection (tree.get? "logger") := hlogger ▸ trivial
  have hread : ofMembers tree = .ok settings ↔ _ := readMembers_settings
  have hlevel : Key.reading .minLevel (Key.find? .minLevel tree) = (Level.parse s).toOption := by
    rw [h]
    exact (Key.Gives.minLevel s).reading origin
  have hnamed : pick (Conversion.level [.key "min_level", .key "logger"])
      ((below tree "logger").get? "min_level") .debug = some settings.logger.minLevel ↔
        Level.parse s = .ok settings.logger.minLevel := by
    rw [← toOption_eq_some_iff, ← hlevel, Key.reading_eq]
    rfl
  have hinside : pick (LoggerSettings.layout.read [.key "logger"]) (tree.get? "logger") {} =
      some settings.logger ↔ _ := (pick_read LoggerSettings.layout _ hsection).trans readMembers_logger
  rw [hread, hinside, hnamed, OthersRead]
  simp only [List.forall_mem_cons, List.not_mem_nil, false_imp_iff, implies_true, and_true,
    Key.reading_eq]
  constructor
  · rintro ⟨⟨hnode, hmin, hlocal, hstart⟩, hconsole⟩
    exact ⟨hmin, ⟨hnode, hlocal, hstart⟩, hconsole⟩
  · rintro ⟨hmin, ⟨hnode, hlocal, hstart⟩, hconsole⟩
    exact ⟨⟨hnode, hmin, hlocal, hstart⟩, hconsole⟩

@[simp] theorem othersRead_withLevel {settings : Settings} {level : Level} :
    OthersRead tree (settings.withLevel level) ↔ OthersRead tree settings := by
  simp only [OthersRead, List.forall_mem_cons, List.not_mem_nil, false_imp_iff, implies_true,
    and_true]
  rfl

/-- Trees that differ at most in the level. -/
structure AlikeApart (tree tree' : Members Node) : Prop where
  sections : ∀ name, name ≠ "logger" → tree'.get? name = tree.get? name
  inside : ∀ name, name ≠ "min_level" →
    (below tree' "logger").get? name = (below tree "logger").get? name

theorem AlikeApart.othersRead_iff (h : AlikeApart tree tree') {settings : Settings} :
    OthersRead tree' settings ↔ OthersRead tree settings := by
  have hfind : ∀ key ∈ [Key.nodeName, .localOutput, .sequenceStart],
      key.find? tree' = key.find? tree := by
    simp only [List.forall_mem_cons, List.not_mem_nil, false_imp_iff, implies_true, and_true]
    exact ⟨h.inside _ (by decide), h.inside _ (by decide), h.inside _ (by decide)⟩
  rw [OthersRead, OthersRead, h.sections "console" (by decide)]
  refine and_congr_left' (forall₂_congr fun key hkey => ?_)
  rw [hfind key hkey]

theorem AlikeApart.symm (h : AlikeApart tree tree') : AlikeApart tree' tree :=
  ⟨fun name hname => (h.sections name hname).symm, fun name hname => (h.inside name hname).symm⟩

theorem AlikeApart.trans {tree'' : Members Node} (h : AlikeApart tree tree')
    (h' : AlikeApart tree' tree'') : AlikeApart tree tree'' :=
  ⟨fun name hname => (h'.sections name hname).trans (h.sections name hname),
    fun name hname => (h'.inside name hname).trans (h.inside name hname)⟩

theorem alikeApart_write (tree : Members Node) (made : Origin) (node : Node) :
    AlikeApart tree (Key.write .minLevel made node tree) := by
  obtain ⟨outer, hwrite⟩ := write_cons made node tree "logger" [] "min_level"
  constructor
  · intro name hname
    simp only [Key.write, Key.sections, Key.name, hwrite, Members.get?_put]
    exact if_neg (Ne.symm hname)
  · intro name hname
    simp only [Key.write, Key.sections, Key.name, hwrite, below_put_self, write, Members.get?_put]
    exact if_neg (Ne.symm hname)

/-- What comes of sources with a text for the level is settled by what comes of them with the
names that levels show in its place. -/
structure LevelDecided (s : String) (outcome : Except Problem Settings)
    (shown : Level → Except Problem Settings) : Prop where
  /-- The level is the one that the text names, and the text decides about nothing else. -/
  accepted : ∀ settings, outcome = .ok settings ↔ settings.logger.minLevel.Named s ∧
    ∀ level, shown level = .ok (settings.withLevel level)
  /-- Where nothing else is wrong, a text that names no level is what is complained about. -/
  refused : (∀ level : Level, ¬level.Named s) → ∀ level settings, shown level = .ok settings →
    outcome = .error (.refused (.unknownLevel ⟨s⟩) (Key.place .minLevel))

theorem LevelDecided.error {problem : Problem} :
    LevelDecided s (.error problem) fun _ => .error problem := by
  constructor
  · simp
  · simp

/-- The name of the node is among the other settings. -/
theorem OthersRead.nodeName {settings : Settings} (h : OthersRead tree settings) {node : Node}
    (hnode : Key.find? .nodeName tree = some node) :
    ∃ text, Conversion.text (Key.place .nodeName) node = .ok text := by
  have hread := h.1 .nodeName List.mem_cons_self
  rw [hnode] at hread
  exact ⟨_, toOption_eq_some_iff.mp hread⟩

theorem levelDecided_of_alikeApart {shown : Level → Members Node}
    (h : Key.find? .minLevel tree = some (.leaf origin (.text s)))
    (hshown : ∀ level, ∃ origin',
      Key.find? .minLevel (shown level) = some (.leaf origin' (.text level.name)))
    (halike : ∀ level, AlikeApart tree (shown level)) :
    LevelDecided s (ofMembers tree) fun level => ofMembers (shown level) := by
  have hread : ∀ level settings, ofMembers (shown level) = .ok settings ↔
      settings.logger.minLevel = level ∧ OthersRead tree settings := by
    intro level settings
    obtain ⟨origin', hlevel⟩ := hshown level
    rw [ofMembers_of_text hlevel, Level.parse_name, Except.ok.injEq, (halike level).othersRead_iff,
      eq_comm]
  constructor
  case accepted =>
    intro settings
    rw [ofMembers_of_text h, Level.parse_eq_ok_iff]
    apply and_congr_right'
    constructor
    · exact fun hothers level => (hread level _).mpr ⟨rfl, othersRead_withLevel.mpr hothers⟩
    · exact fun hall => othersRead_withLevel.mp ((hread .debug _).mp (hall .debug)).2
  case refused =>
    intro hnone level settings hok
    obtain ⟨-, hothers⟩ := (hread level settings).mp hok
    have hparse : Level.parse s = .error ⟨s⟩ := Level.parse_eq_error_iff.mpr ⟨rfl, hnone⟩
    exact ofMembers_of_unknown_of_name (fun node hnode => hothers.nodeName hnode) h hparse

/-- A key of a source leads neither to the level nor to the whole section around it. -/
def Elsewhere (key : String) : Prop :=
  ∀ steps, KeyPath.ofKey key = ⟨"logger", steps⟩ →
    ∃ name rest, steps = .key name :: rest ∧ name ≠ "min_level"

/-- Laying a value over something inside a table writes it into the table. -/
theorem below_put_setAt (name : String) (rest : List Step) (node : Node) :
    below (tree.put "logger" (Node.setAt node (.key name :: rest) (tree.get? "logger"))) "logger" =
      (below tree "logger").put name
        (Node.setAt node rest ((below tree "logger").get? name)) := by
  rw [Node.setAt, below_put_self]
  rfl

theorem Elsewhere.find?_layer {key : String} (h : Elsewhere key) (node : Node) :
    Key.find? .minLevel (Node.layer tree [(key, node)]) = Key.find? .minLevel tree := by
  change (below _ "logger").get? "min_level" = (below _ "logger").get? "min_level"
  rw [layer_cons, Node.layer, List.foldl_nil]
  rcases hpath : KeyPath.ofKey key with ⟨root, steps⟩
  by_cases hroot : root = "logger"
  · subst hroot
    obtain ⟨name, rest, rfl, hname⟩ := h _ hpath
    rw [below_put_setAt, Members.get?_put, if_neg hname]
  · rw [below_put_of_ne hroot]

theorem Elsewhere.alikeApart_layer {key : String} (h : Elsewhere key) (node : Node)
    (halike : AlikeApart tree tree') :
    AlikeApart (Node.layer tree [(key, node)]) (Node.layer tree' [(key, node)]) := by
  rw [layer_cons, layer_cons, Node.layer, Node.layer, List.foldl_nil, List.foldl_nil]
  rcases hpath : KeyPath.ofKey key with ⟨root, steps⟩
  by_cases hroot : root = "logger"
  · subst hroot
    obtain ⟨first, rest, rfl, hfirst⟩ := h _ hpath
    constructor
    case sections =>
      intro name hname
      rw [Members.get?_put, Members.get?_put, if_neg (Ne.symm hname), if_neg (Ne.symm hname)]
      exact halike.sections name hname
    case inside =>
      intro name hname
      rw [below_put_setAt, below_put_setAt, halike.inside first hfirst, Members.get?_put,
        Members.get?_put, halike.inside name hname]
  · constructor
    case sections =>
      intro name hname
      rw [halike.sections root hroot, Members.get?_put, Members.get?_put,
        halike.sections name hname]
    case inside =>
      intro name hname
      rw [below_put_of_ne hroot, below_put_of_ne hroot]
      exact halike.inside name hname

/-- The keys of a source lead elsewhere. -/
def AllElsewhere (source : List (String × Node)) : Prop :=
  ∀ key ∈ source.map Prod.fst, Elsewhere key

/-- A source whose keys lead elsewhere leaves the level as it is. -/
theorem AllElsewhere.find?_layer {source : List (String × Node)} (h : AllElsewhere source) :
    Key.find? .minLevel (Node.layer tree source) = Key.find? .minLevel tree := by
  induction source generalizing tree with
  | nil => rfl
  | cons entry rest ih =>
      obtain ⟨hkey, hrest⟩ := List.forall_mem_cons.mp h
      exact (ih hrest).trans (Elsewhere.find?_layer hkey entry.2)

/-- A source whose keys lead elsewhere leaves trees alike apart from the level. -/
theorem AllElsewhere.alikeApart_layer {source : List (String × Node)} (h : AllElsewhere source)
    (halike : AlikeApart tree tree') :
    AlikeApart (Node.layer tree source) (Node.layer tree' source) := by
  induction source generalizing tree tree' with
  | nil => exact halike
  | cons entry rest ih =>
      obtain ⟨hkey, hrest⟩ := List.forall_mem_cons.mp h
      exact ih hrest (Elsewhere.alikeApart_layer hkey entry.2 halike)

/-- Tables that are alike apart from the level stay so when they are laid over the same base. -/
theorem AlikeApart.layMembers (halike : AlikeApart tree tree') (h : Clear ["logger"] tree)
    (h' : Clear ["logger"] tree') (base : Members Node) :
    AlikeApart (Node.layMembers base tree) (Node.layMembers base tree') := by
  obtain ⟨hdistinct, hsection, hinside⟩ := h
  obtain ⟨hdistinct', hsection', hinside'⟩ := h'
  constructor
  case sections =>
    intro name hname
    rw [get?_layMembers hdistinct, get?_layMembers hdistinct', halike.sections name hname]
  case inside =>
    intro name hname
    rw [below_layMembers hdistinct hsection, below_layMembers hdistinct' hsection',
      get?_layMembers hinside, get?_layMembers hinside', halike.inside name hname]

end Tree

section Sources

variable {s : String}

/-- In whatever sources the text stands, as long as it is what the level is read from. -/
theorem levelDecided_sources {sources : List (List (String × Node))} {origin : Origin}
    (h : Key.find? .minLevel (sources.foldl Node.layer builtIn) =
      some (.leaf origin (.text s))) :
    LevelDecided s (ofSources sources) fun level =>
      ofMembers (Key.write .minLevel origin (.leaf origin (.text level.name))
        (sources.foldl Node.layer builtIn)) := by
  apply levelDecided_of_alikeApart h
  · exact fun level => ⟨origin, by rw [Key.find?_write, if_pos rfl]⟩
  · exact fun level => alikeApart_write _ origin _

/-- A variable of the environment writes its setting, between what stands before and after it. -/
theorem layer_variable {key : Key} {name : String}
    (hname : Environment.key? name = some key.text) (text : String)
    (before after : List (String × String)) (base : Members Node) :
    Node.layer base (Environment.members (before ++ (name, text) :: after)) =
      Node.layer (key.write .unnamed (.leaf .environment (.text text))
        (Node.layer base (Environment.members before))) (Environment.members after) := by
  have hmembers : Environment.members (before ++ (name, text) :: after) =
      Environment.members before ++
        (key.text, .leaf .environment (.text text)) :: Environment.members after := by
    simp [Environment.members, hname]
  rw [hmembers, ← layer_setting, Node.layer, List.foldl_append]
  rfl

section Load

variable {name : String} {before after : List (String × String)}

theorem levelDecided_environment (members : Members Node)
    (hname : Environment.key? name = some (Key.text .minLevel))
    (hafter : AllElsewhere (Environment.members after)) :
    LevelDecided s (ofSources [members, Environment.members (before ++ (name, s) :: after)])
      fun level =>
        ofSources [members, Environment.members (before ++ (name, level.name) :: after)] := by
  simp only [ofSources, List.foldl_cons, List.foldl_nil, layer_variable hname]
  apply levelDecided_of_alikeApart
  · rw [hafter.find?_layer, Key.find?_write, if_pos rfl]
  · intro level
    exact ⟨.environment, by rw [hafter.find?_layer, Key.find?_write, if_pos rfl]⟩
  · intro level
    apply hafter.alikeApart_layer
    exact (alikeApart_write _ _ _).symm.trans (alikeApart_write _ _ _)

/-- In a variable of the environment, over any file. -/
theorem levelDecided_load (file : Option SourceFile)
    (hname : Environment.key? name = some (Key.text .minLevel))
    (hafter : AllElsewhere (Environment.members after)) :
    LevelDecided s (load file (before ++ (name, s) :: after)) fun level =>
      load file (before ++ (name, level.name) :: after) := by
  cases file with
  | none => exact levelDecided_environment [] hname hafter
  | some source =>
      simp only [load]
      cases source.members with
      | error problem => exact .error
      | ok members => exact levelDecided_environment members hname hafter

/-- A level that is given by a variable alone is the only setting that is no default. -/
theorem load_variable {settings : Settings} :
    load none [(Key.variableName .minLevel, s)] = .ok settings ↔
      settings.logger.minLevel.Named s ∧
        settings = ({} : Settings).withLevel settings.logger.minLevel := by
  have hshown : ∀ level : Level, load none [(Key.variableName .minLevel, level.name)] =
      .ok (({} : Settings).withLevel level) := by
    intro level
    cases level <;> cbv
  have hnone : AllElsewhere (Environment.members []) := List.forall_mem_nil _
  have hdecided : LevelDecided s (load none ([] ++ [(_, s)])) _ :=
    levelDecided_load none (Key.key?_variableName .minLevel) hnone
  rw [List.nil_append] at hdecided
  rw [hdecided.accepted]
  apply and_congr_right'
  simp only [List.nil_append, hshown, Except.ok.injEq]
  constructor
  · intro hall
    exact (hall settings.logger.minLevel).symm
  · intro hsettings level
    rw [hsettings]
    rfl

end Load

/-- In a file, below an environment that does not set the level. -/
theorem levelDecided_file {file : Members Node} {origin : Origin}
    {environment : List (String × String)} (h : Proper file)
    (hfound : Key.find? .minLevel file = some (.leaf origin (.text s)))
    (henvironment : AllElsewhere (Environment.members environment)) :
    LevelDecided s (ofSources [file, Environment.members environment]) fun level =>
      ofSources [edit origin [(.minLevel, level.name)] file, Environment.members environment] := by
  have hlay : ∀ {text : String} {file : Members Node}, Proper file →
      Key.find? .minLevel file = some (.leaf origin (.text text)) →
      Key.find? .minLevel (Node.layer (Node.layMembers builtIn file)
        (Environment.members environment)) = some (.leaf origin (.text text)) := by
    intro text file h hfound
    rw [henvironment.find?_layer, find?_tree_of_leaf h hfound]
  have hwrite : ∀ text, Proper (Key.write .minLevel origin (.leaf origin (.text text)) file) :=
    fun text => h.write .minLevel origin _
  have hedit : ∀ text, edit origin [(.minLevel, text)] file =
    Key.write .minLevel origin (.leaf origin (.text text)) file := fun text => rfl
  simp only [ofSources, List.foldl_cons, List.foldl_nil, hedit, layer_eq_layMembers h.plain,
    layer_eq_layMembers (hwrite _).plain]
  apply levelDecided_of_alikeApart (hlay h hfound)
  · intro level
    exact ⟨origin, hlay (hwrite _) (by rw [Key.find?_write, if_pos rfl])⟩
  · intro level
    apply henvironment.alikeApart_layer
    exact (alikeApart_write file _ _).layMembers (h.clear .minLevel) ((hwrite _).clear .minLevel)
      builtIn

end Sources

end Settings

namespace Level

open Settings Json

/-- What a text is where a level is read from it. -/
structure ReadAlike (s : String) : Prop where
  /-- By itself it is the level that it names. -/
  parsed : ∀ level : Level, parse s = .ok level ↔ level.Named s
  /-- If it names none, the complaint has it as it came. -/
  refused : ∀ unknown, parse s = .error unknown ↔ unknown = ⟨s⟩ ∧ ∀ level : Level, ¬level.Named s
  /-- What a level shows is a name of that level. -/
  shown : ∀ level : Level, Text.Variant level.name s → parse s = .ok level
  /-- There is a JSON string of it. -/
  written : Reader.text.ofText (Value.ofString s).text = .ok s
  /-- As a JSON string it is the same level, or the same complaint. -/
  json : ∀ text, Reader.text.ofText text = .ok s → Reader.levelName.ofText text =
    (parse s).mapError fun unknown => .mistaken (.unknownLevel unknown)
  /-- So it is wherever it has come to stand for the level in sources laid over each other. -/
  sources : ∀ (sources : List (List (String × Node))) (origin : Origin),
    Key.find? .minLevel (sources.foldl Node.layer builtIn) = some (.leaf origin (.text s)) →
    LevelDecided s (ofSources sources) fun level =>
      ofMembers (Key.write .minLevel origin (.leaf origin (.text level.name))
        (sources.foldl Node.layer builtIn))
  /-- In a document. -/
  document : ∀ (text : String) (tree : Members Node) (origin : Origin),
    readDocument .toml .unnamed text = .ok tree → Proper tree →
    Key.find? .minLevel tree = some (.leaf origin (.text s)) →
    LevelDecided s (ofToml text) fun level => ofSources [edit origin [(.minLevel, level.name)] tree]
  /-- In a file, below an environment that does not set the level. -/
  file : ∀ (source : SourceFile) (tree : Members Node) (origin : Origin)
    (environment : List (String × String)), source.members = .ok tree → Proper tree →
    Key.find? .minLevel tree = some (.leaf origin (.text s)) →
    AllElsewhere (Environment.members environment) →
    LevelDecided s (load (some source) environment) fun level =>
      ofSources [edit origin [(.minLevel, level.name)] tree, Environment.members environment]
  /-- In the environment, over any file. -/
  environment : ∀ (source : Option SourceFile) (name : String)
    (before after : List (String × String)),
    Environment.key? name = some (Key.text .minLevel) →
    AllElsewhere (Environment.members after) →
    LevelDecided s (load source (before ++ (name, s) :: after)) fun level =>
      load source (before ++ (name, level.name) :: after)
  /-- There alone, it is the level of the default settings. -/
  alone : ∀ settings, load none [(Key.variableName .minLevel, s)] = .ok settings ↔
    settings.logger.minLevel.Named s ∧
      settings = ({} : Settings).withLevel settings.logger.minLevel

/-- The same texts are the same levels wherever a level is read. -/
theorem read_alike (s : String) : ReadAlike s := by
  constructor
  case parsed => exact fun level => parse_eq_ok_iff
  case refused => exact fun unknown => parse_eq_error_iff
  case shown => exact fun level => parse_of_variant_name
  case written => exact Reader.text_ofText s
  case json => exact fun text => Reader.levelName_ofText
  case sources => exact fun sources origin => levelDecided_sources
  case document =>
    intro text tree origin htext h hfound
    have hnone : AllElsewhere (Environment.members []) := List.forall_mem_nil _
    rw [ofToml, htext]
    exact levelDecided_file h hfound hnone
  case file =>
    intro source tree origin environment hsource h hfound henvironment
    rw [load, hsource]
    exact levelDecided_file h hfound henvironment
  case environment =>
    exact fun source name before after hname hafter => levelDecided_load source hname hafter
  case alone => exact fun settings => load_variable

example : (load none [("NODELOG_LOGGER__MIN_LEVEL", " fAtAl\u3000")]).toOption.map
    (·.logger.minLevel) = some .fatal := by cbv

end Level

end Logbook
