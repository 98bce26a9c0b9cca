/-
Settings that are read from JSON field by field, without a tree of settings.  Here every value
must have just its own kind, but of values of the declared kinds this makes nothing of it: if no
name comes twice, they are read as by the tree.  Main statement: `toOption_ofJson`.
-/
import Logbook.Proofs.Settings.Declared
import Logbook.Proofs.Settings.Written
import Logbook.Settings.Wire

namespace Logbook

namespace Settings

open Json

section Match

variable {σ τ α : Type} {members : Members Tree} {nodes : Members Node} {place : Place}

/-- Reads a field of a section from the member of its name, if there is one. -/
def readField (place : Place) (nodes : Members Node) (field : Field τ) (value : τ) :
    Except Problem τ :=
  match nodes.get? field.name with
  | some node => field.read (.key field.name :: place) node value
  | none => .ok value

theorem readMembers_eq (field : Field τ) (rest : List (Field τ)) (value : τ) :
    Section.readMembers place nodes (field :: rest) value =
      readField place nodes field value >>= Section.readMembers place nodes rest := by
  unfold readField
  cases hfound : nodes.get? field.name <;> simp only [Section.readMembers, hfound]

/-- A field of an object and one of a section that do the same to the same part. -/
def Matching (whole : σ → τ) (members : Members Tree) (place : Place) (nodes : Members Node)
    (field : Json.Field σ) (other : Field τ) : Prop :=
  ∀ parts, (Json.readField members field parts).toOption.map whole =
    (readField place nodes other (whole parts)).toOption

/-- What two ways of reading find under a name, and it reads the same by both. -/
def Alike (reader : Reader α) (conversion : Conversion α) (place : Place) :
    Option Tree → Option Node → Prop :=
  Option.Rel fun tree node => (reader tree).toOption = (conversion place node).toOption

theorem matching_of {whole : σ → τ} {name : String} {get : σ → Option α}
    {set : σ → Option α → σ} {reader : Reader α} {conversion : Conversion α} {set' : τ → α → τ}
    (halike : Alike reader conversion (.key name :: place) (members.get? name) (nodes.get? name))
    (hset : ∀ parts value, whole (set parts (some value)) = set' (whole parts) value) :
    Matching whole members place nodes (.of name get set reader)
      (.of name conversion set') := by
  intro parts
  simp only [Json.readField, readField, Json.Field.of, Field.of]
  generalize members.get? name = found at halike
  generalize nodes.get? name = found' at halike
  cases halike with
  | none => rfl
  | @some tree node hread =>
    cases hvalue : reader tree <;> cases hvalue' : conversion (.key name :: place) node <;>
      simp_all [Except.map, Except.toOption]

/-- Fields that match in pairs read the same. -/
theorem toOption_readFields {whole : σ → τ} {fields : List (Json.Field σ)}
    {others : List (Field τ)}
    (h : List.Forall₂ (Matching whole members place nodes) fields others) (parts : σ) :
    (readFields members fields parts).toOption.map whole =
      (Section.readMembers place nodes others (whole parts)).toOption := by
  induction h generalizing parts with
  | nil => rfl
  | @cons field other fields others hmatch hrest ih =>
      have hread := hmatch parts
      rw [readFields, readMembers_eq]
      cases hfirst : Json.readField members field parts with
      | error problem =>
        rw [hfirst] at hread
        obtain ⟨problem', hother⟩ := toOption_eq_none_iff.mp hread.symm
        rw [hother]
        rfl
      | ok parts' =>
        rw [hfirst] at hread
        rw [toOption_eq_some_iff.mp hread.symm]
        exact ih parts'

end Match

/-- How the value of a setting is read from JSON. -/
def Key.wire : (key : Key) → Reader key.Value
  | .nodeName => Reader.text
  | .minLevel => Reader.levelName
  | .localOutput => Reader.boolean
  | .sequenceStart => Reader.word
  | .color => Reader.boolean
  | .colorOf _ => Reader.text

/-- A value of its declared kind is taken as it is written. -/
theorem Key.Gives.wire {key : Key} {tree : Tree} {leaf : Leaf} {given : Option key.Value}
    (h : key.Gives leaf given) (hwritten : Written tree leaf) :
    (key.wire tree).toOption = given := by
  have htext : ∀ s, (Reader.text (.string (.ok s.toList))).toOption = some s :=
    fun s => congrArg some String.ofList_toList
  cases h with
  | nodeName s =>
      obtain rfl := hwritten.eq_string
      exact htext s
  | minLevel s =>
      obtain rfl := hwritten.eq_string
      simp only [Key.wire, Reader.levelName, Reader.text, Except.map, String.ofList_toList, bind,
        Except.bind]
      cases Level.parse s <;> rfl
  | localOutput b =>
      obtain rfl := hwritten.eq_boolean
      rfl
  | sequenceStart n =>
      obtain ⟨t, rfl, hvalue⟩ := hwritten.eq_number
      have hsmall := n.toNat_lt
      simp only [Key.wire, Reader.word, Reader.unsigned, hvalue, bind, Except.bind]
      rw [if_pos (by omega)]
      simp [Except.map, Except.toOption]
  | color b =>
      obtain rfl := hwritten.eq_boolean
      rfl
  | colorOf level s =>
      obtain rfl := hwritten.eq_string
      exact htext s

section Section

variable {σ τ : Type} {shape : Shape σ τ} {layout : Section τ} {whole : σ → τ} {origin : Origin}
  {room : Nat} {members : Members Tree} {nodes : Members Node} {place : Place}

/-- A structure of which nothing has to be given, and a section with the same defaults. -/
structure Agree (shape : Shape σ τ) (layout : Section τ) (whole : σ → τ) : Prop where
  apart : shape.fields.Pairwise Json.Field.Apart
  unset : ∀ field ∈ shape.fields, field.isSet shape.empty = false
  build : ∀ absence parts, shape.build absence parts = .ok (whole parts)
  default : whole shape.empty = layout.default

theorem Agree.toOption_read (h : Agree shape layout whole)
    (hspells : Spells origin room members nodes)
    (hmatch : List.Forall₂ (Matching whole members place nodes) shape.fields layout.fields)
    (origin' : Origin) :
    (shape.read (.object (spelled members) .closed)).toOption =
      (layout.read place (.table origin' nodes)).toOption := by
  rw [Shape.toOption_read_object h.apart hspells.distinct hspells.skip h.unset h.build,
    toOption_readFields hmatch, h.default]
  rfl

/-- A section inside another one is read by both ways alike if its fields are. -/
theorem Agree.alike (h : Agree shape layout whole) {name : String} {sections : List String}
    (hspells : Spells origin room members nodes)
    (hsingle : Single (name :: sections) (.object (spelled members) .closed))
    (hsection : IsSection (nodes.get? name))
    (hmatch : ∀ {members'}, Spells origin (room - 1) members' (below nodes name) →
      members.get? name = some (.object (spelled members') .closed) →
      List.Forall₂ (Matching whole members' (.key name :: place) (below nodes name)) shape.fields
        layout.fields) :
    Alike shape.read layout.read (.key name :: place) (members.get? name) (nodes.get? name) := by
  have hrel := hspells.found name
  unfold below at hmatch
  generalize hfound : members.get? name = found at hrel hmatch
  generalize nodes.get? name = found' at hrel hsection hmatch
  cases hrel with
  | none => exact .none
  | @some tree node hnode =>
      cases node with
      | leaf origin value => exact hsection.elim
      | list origin items => exact hsection.elim
      | table origin' nodes' =>
          obtain ⟨members', rfl, hspells'⟩ := exists_spells hnode (hsingle.of_get? hfound)
          exact .some (h.toOption_read hspells' (hmatch hspells' rfl) origin')

/-- A setting that is of its declared kind, if it is there, is read by both ways alike. -/
theorem Spells.alike (hspells : Spells origin room members nodes) (key : Key)
    (h : ∀ node, nodes.get? key.name = some node →
      ∃ origin value given, node = .leaf origin value ∧ key.Gives value given) :
    Alike key.wire key.convert key.place (members.get? key.name) (nodes.get? key.name) := by
  have hrel := hspells.found key.name
  generalize members.get? key.name = found at hrel
  generalize nodes.get? key.name = found' at hrel h
  cases hrel with
  | none => exact .none
  | @some tree node hnode =>
      obtain ⟨origin', value, given, rfl, hgives⟩ := h node rfl
      exact .some ((hgives.wire (written_of_ofJson? hnode)).trans (hgives.reading origin').symm)

end Section

theorem agree_logger : Agree LoggerSettings.shape LoggerSettings.layout fun parts =>
    ⟨parts.nodeName.getD fallbackName, parts.minLevel.getD .debug, parts.localOutput.getD true,
      parts.sequenceStart.getD 0⟩ where
  apart := by
    simp only [LoggerSettings.shape, List.pairwise_cons, List.forall_mem_cons, List.not_mem_nil,
      false_imp_iff, implies_true, List.Pairwise.nil, and_true]
    and_intros <;> exact Field.apart_of (by decide) _ _ (fun _ _ => rfl) (fun _ _ => rfl)
      fun _ _ _ => rfl
  unset := by simp [LoggerSettings.shape, Json.Field.of]
  build absence parts := rfl
  default := rfl

theorem agree_colors : Agree PerLevel.shape Palette.layout fun parts =>
    ⟨parts.debug.getD "cyan", parts.info.getD "green", parts.warn.getD "yellow",
      parts.error.getD "red", parts.fatal.getD "magenta"⟩ where
  apart := by
    simp only [PerLevel.shape, List.pairwise_cons, List.forall_mem_cons, List.not_mem_nil,
      false_imp_iff, implies_true, List.Pairwise.nil, and_true]
    and_intros <;> exact Field.apart_of (by decide) _ _ (fun _ _ => rfl) (fun _ _ => rfl)
      fun _ _ _ => rfl
  unset := by simp [PerLevel.shape, Json.Field.of]
  build absence parts := rfl
  default := rfl

theorem agree_console : Agree ConsoleSettings.shape ConsoleSettings.layout fun parts =>
    ⟨parts.color.getD true, parts.colors.getD Palette.defaultNames⟩ where
  apart := List.pairwise_pair.mpr
    (Field.apart_of (by decide) _ _ (fun _ _ => rfl) (fun _ _ => rfl) fun _ _ _ => rfl)
  unset := by simp [ConsoleSettings.shape, Json.Field.of]
  build absence parts := rfl
  default := rfl

theorem agree_settings : Agree shape layout fun parts =>
    ⟨parts.logger.getD {}, parts.console.getD {}⟩ where
  apart := List.pairwise_pair.mpr
    (Field.apart_of (by decide) _ _ (fun _ _ => rfl) (fun _ _ => rfl) fun _ _ _ => rfl)
  unset := by simp [shape, Json.Field.of]
  build absence parts := rfl
  default := rfl

theorem root_of_readDocument {text : String} {origin : Origin} {tree : Members Node}
    (h : readDocument .json origin text = .ok tree) :
    (Document.ofText text).surplus = false ∧ ∃ origin',
      Node.ofJson? origin jsonDepth (Document.ofText text).root = some (.table origin' tree) := by
  have hread := readDocument_eq_ok_iff.mp h
  simp only [Format.json] at hread
  split at hread
  · rename_i origin' members hsurplus hroot
    obtain rfl := Option.some.inj hread
    exact ⟨hsurplus, origin', hroot⟩
  · simp at hread

section Document

variable {origin : Origin} {room : Nat} {members : Members Tree} {tree : Members Node}

theorem Spells.alike_logger (hspells : Spells origin room members tree)
    (hsingle : Single (Key.sections .nodeName) (.object (spelled members) .closed))
    (hsections : Sectioned tree) (hdeclared : Declared tree) :
    Alike LoggerSettings.shape.read LoggerSettings.layout.read [.key "logger"]
      (members.get? "logger") (tree.get? "logger") :=
  agree_logger.alike hspells hsingle hsections.logger fun hlogger _ =>
    .cons (matching_of (hlogger.alike .nodeName (hdeclared .nodeName)) fun _ _ => rfl) <|
    .cons (matching_of (hlogger.alike .minLevel (hdeclared .minLevel)) fun _ _ => rfl) <|
    .cons (matching_of (hlogger.alike .localOutput (hdeclared .localOutput)) fun _ _ => rfl) <|
    .cons (matching_of (hlogger.alike .sequenceStart (hdeclared .sequenceStart)) fun _ _ => rfl)
      .nil

theorem Spells.alike_console (hspells : Spells origin room members tree)
    (hsingle : ∀ level, Single (Key.sections (.colorOf level)) (.object (spelled members) .closed))
    (hsections : Sectioned tree) (hdeclared : Declared tree) :
    Alike ConsoleSettings.shape.read ConsoleSettings.layout.read [.key "console"]
      (members.get? "console") (tree.get? "console") := by
  have hcolors : ∀ {members'}, Spells origin (room - 1) members' (below tree "console") →
      members.get? "console" = some (.object (spelled members') .closed) →
      Alike PerLevel.shape.read Palette.layout.read [.key "colors", .key "console"]
        (members'.get? "colors") ((below tree "console").get? "colors") :=
    fun hconsole hfound =>
      agree_colors.alike hconsole ((hsingle .debug).of_get? hfound) hsections.colors
        fun hcolors _ =>
          have hmatch := fun level => hcolors.alike (.colorOf level) (hdeclared (.colorOf level))
          .cons (matching_of (hmatch .debug) fun _ _ => rfl) <|
          .cons (matching_of (hmatch .info) fun _ _ => rfl) <|
          .cons (matching_of (hmatch .warn) fun _ _ => rfl) <|
          .cons (matching_of (hmatch .error) fun _ _ => rfl) <|
          .cons (matching_of (hmatch .fatal) fun _ _ => rfl) .nil
  exact agree_console.alike hspells (hsingle .debug) hsections.console fun hconsole hfound =>
    .cons (matching_of (hconsole.alike .color (hdeclared .color)) fun _ _ => rfl) <|
    .cons (matching_of (hcolors hconsole hfound) fun _ _ => rfl) .nil

/-- A JSON text of settings of the declared kinds, without a name twice in a section, is read field
by field as the tree is that it stands for. -/
theorem toOption_ofJson {text : String}
    (hread : readDocument .json origin text = .ok tree)
    (hsingle : ∀ key : Key, Single key.sections (Document.ofText text).root)
    (hsections : Sectioned tree) (hdeclared : Declared tree) :
    (ofJson text).toOption = (ofMembers tree).toOption := by
  obtain ⟨hsurplus, origin', hroot⟩ := root_of_readDocument hread
  obtain ⟨members, hmembers, hspells⟩ := exists_spells hroot (hsingle .nodeName)
  rw [hmembers] at hsingle
  have hlogger := hspells.alike_logger (hsingle .nodeName) hsections hdeclared
  have hconsole := hspells.alike_console (fun level => hsingle (.colorOf level)) hsections hdeclared
  have hwhole : (ofJson text).toOption =
      (shape.read (.object (spelled members) .closed)).toOption := by
    simp only [ofJson, Reader.ofText, hsurplus, hmembers]
    cases shape.read (.object (spelled members) .closed) <;> rfl
  rw [hwhole]
  exact agree_settings.toOption_read hspells
    (.cons (matching_of hlogger fun _ _ => rfl) <|
      .cons (matching_of hconsole fun _ _ => rfl) .nil) .unnamed

end Document

end Settings

end Logbook
