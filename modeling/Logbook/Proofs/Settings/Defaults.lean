/-
Two sources of defaults.  Settings have defaults of their own, and a tree of built-in settings is
laid below every source.  It makes no difference which of the two fills in what a source leaves
out: a tree over the built-in settings and the tree alone are the same settings, or both are
refused, and so is its JSON text when it is read field by field.  Of values of the right kinds only
an unknown level is ever refused.  Main statement: `defaults_agree`.
-/
import Logbook.Logger
import Logbook.Proofs.Settings.Overrides
import Logbook.Proofs.Settings.Wire

namespace Logbook

namespace Settings

section Tree

variable {tree : Members Node}

theorem declared_builtIn : Declared builtIn := by
  intro key node hfound
  cases key with
  | nodeName => exact absurd hfound (by simp [Key.find?, find?, Key.sections, Key.name, below,
      builtIn, Members.get?, Node.tableBelow])
  | minLevel =>
      obtain rfl := Option.some.inj hfound
      exact ⟨_, _, _, rfl, .minLevel "debug"⟩
  | localOutput =>
      obtain rfl := Option.some.inj hfound
      exact ⟨_, _, _, rfl, .localOutput true⟩
  | sequenceStart =>
      obtain rfl := Option.some.inj hfound
      exact ⟨_, _, _, rfl, .sequenceStart 0⟩
  | color =>
      obtain rfl := Option.some.inj hfound
      exact ⟨_, _, _, rfl, .color true⟩
  | colorOf level =>
      cases level <;> obtain rfl := Option.some.inj hfound <;>
        exact ⟨_, _, _, rfl, .colorOf _ _⟩

/-- The tree over the built-in settings. -/
theorem ofSources_tree (h : Proper tree) :
    ofSources [tree] = ofMembers (Node.layMembers builtIn tree) := by
  rw [ofSources, List.foldl_cons, List.foldl_nil, layer_eq_layMembers h.plain]

theorem sectioned_tree (h : Proper tree) : Sectioned (Node.layMembers builtIn tree) :=
  sectioned_of_clear fun key => clear_layMembers (clear_builtIn key) (h.clear key)

/-- A value without parts that the tree gives is found over the built-in settings too. -/
theorem find?_tree_of_leaf (h : Proper tree) {key : Key} {origin : Origin} {value : Leaf}
    (hfound : key.find? tree = some (.leaf origin value)) :
    key.find? (Node.layMembers builtIn tree) = some (.leaf origin value) := by
  rw [key.find?_layMembers (h.clear key), hfound]
  rfl

/-- Over the built-in settings a tree still gives values of the declared kinds. -/
theorem Declared.over (hdeclared : Declared tree) (h : Proper tree) :
    Declared (Node.layMembers builtIn tree) := by
  intro key node hnode
  cases hfound : key.find? tree with
  | none =>
      rw [key.find?_layMembers (h.clear key), hfound] at hnode
      exact declared_builtIn key node hnode
  | some own =>
      obtain ⟨origin, value, given, rfl, hgives⟩ := hdeclared key own hfound
      have hsame := (find?_tree_of_leaf h hfound).symm.trans hnode
      exact ⟨origin, value, given, (Option.some.inj hsame).symm, hgives⟩

/-- The two sources of defaults agree about what a tree of any values is, and about whether it is
anything. -/
theorem toOption_ofSources (h : Proper tree) :
    (ofSources [tree]).toOption = (ofMembers tree).toOption := by
  rw [ofSources_tree h]
  apply ofMembers_congr (sectioned_tree h) h.sectioned
  exact fun key => key.reading_layMembers_builtIn (h.clear key)

/-- About a tree of values of the declared kinds they agree even in what they complain about. -/
theorem ofSources_eq_ofMembers (h : Proper tree) (hdeclared : Declared tree) :
    ofSources [tree] = ofMembers tree := by
  have hsame := toOption_ofSources h
  cases hown : ofMembers tree with
  | ok settings =>
      rw [hown] at hsame
      exact toOption_eq_some_iff.mp hsame
  | error problem =>
      have hnone : (ofMembers tree).toOption = none := by
        rw [hown]
        rfl
      obtain ⟨origin, s, unknown, hfound, hparse⟩ := (hdeclared.refused h.sectioned).mp hnone
      rw [← hown, ofMembers_of_unknown hdeclared hfound hparse, ofSources_tree h]
      exact ofMembers_of_unknown (hdeclared.over h) (find?_tree_of_leaf h hfound) hparse

/-- That the two sources of defaults agree about a tree. -/
structure DefaultsAgree (tree : Members Node) : Prop where
  /-- The tree over the built-in settings is what it is alone. -/
  sources : ofSources [tree] = ofMembers tree
  /-- So is a document that reads as the tree. -/
  documents : ∀ text, readDocument .toml .unnamed text = .ok tree → ofToml text = ofMembers tree
  /-- And a file, when the environment sets nothing. -/
  files : ∀ source : SourceFile, source.members = .ok tree →
    load (some source) [] = ofMembers tree
  /-- A JSON text of the tree, without a name twice in a section, is read field by field the
  same. -/
  wire : ∀ origin text, readDocument .json origin text = .ok tree →
    (∀ key : Key, Json.Single key.sections (Json.Document.ofText text).root) →
      (ofJson text).toOption = (ofMembers tree).toOption
  /-- A setting that the tree gives has that value, and any other one its default. -/
  values : ∀ settings, ofMembers tree = .ok settings ↔ ∀ key : Key, match key.find? tree with
    | none => key.get settings = key.get {}
    | some node => ∃ origin value, node = .leaf origin value ∧
        key.Gives value (some (key.get settings))
  /-- Only an unknown level is refused. -/
  refused : (∃ problem, ofMembers tree = .error problem) ↔
    ∃ origin s unknown, Key.find? .minLevel tree = some (.leaf origin (.text s)) ∧
      Level.parse s = .error unknown
  /-- Both make the same palette and the same logger. -/
  loggers : ∀ settings settings', ofSources [tree] = .ok settings →
    ofMembers tree = .ok settings' → settings.palette = settings'.palette ∧
      ∀ (C T : Type) (console : C), (LoggerPlan.ofSettings settings : LoggerPlan C T).build console =
        (LoggerPlan.ofSettings settings').build console
  /-- The empty tree is the defaults, with the built-in settings below it or without. -/
  empty : ofSources [[]] = .ok {} ∧ ofMembers [] = .ok {} ∧ ofSources [] = .ok {}

/-- It makes no difference which source of defaults fills in what a tree leaves out. -/
theorem defaults_agree (h : Proper tree) (hdeclared : Declared tree) : DefaultsAgree tree := by
  have hsources := ofSources_eq_ofMembers h hdeclared
  constructor
  case sources => exact hsources
  case documents =>
    intro text htext
    rw [ofToml, htext]
    exact hsources
  case files =>
    intro source hsource
    rw [load, hsource]
    exact hsources
  case wire => exact fun _ _ htext hsingle => toOption_ofJson htext hsingle h.sectioned hdeclared
  case values =>
    intro settings
    rw [ofMembers_eq_ok_iff h.sectioned]
    apply forall_congr'
    intro key
    cases hfound : key.find? tree with
    | none => exact Option.some_inj.trans eq_comm
    | some node =>
        obtain ⟨origin, value, given, rfl, hgives⟩ := hdeclared key node hfound
        constructor
        · intro hreading
          rw [hgives.reading origin] at hreading
          exact ⟨origin, value, rfl, hreading ▸ hgives⟩
        · rintro ⟨origin', value', heq, hgives'⟩
          obtain ⟨rfl, rfl⟩ := Node.leaf.inj heq
          exact hgives'.reading origin
  case refused => exact toOption_eq_none_iff.symm.trans (hdeclared.refused h.sectioned)
  case loggers =>
    intro settings settings' hok hok'
    rw [hsources] at hok
    obtain rfl := Except.ok.inj (hok.symm.trans hok')
    exact ⟨rfl, fun C T console => rfl⟩
  case empty => exact ⟨by cbv, by cbv, by cbv⟩

end Tree

end Settings

namespace DefaultsWitness

open Settings

/-- A tree with an unknown level and an unknown key. -/
def tree : Members Node :=
  [("logger", .table .unnamed [("min_level", .leaf .unnamed (.text "loud"))]),
    ("frame", .leaf .unnamed (.boolean true))]

theorem defaults_agree_tree : (Proper tree ∧ Declared tree) ∧ DefaultsAgree tree := by
  have hproper : Proper tree := by
    refine ⟨by decide, fun key => ?_⟩
    cases key <;>
      simp [Clear, Key.sections, tree, Distinct, IsSection, below, Members.get?, Node.tableBelow]
  have hdeclared : Declared tree := by
    intro key node hfound
    by_cases hkey : key = .minLevel
    · subst hkey
      obtain rfl := Option.some.inj hfound
      exact ⟨_, _, _, rfl, .minLevel "loud"⟩
    · have habsent : ∀ key ∈ Key.all, key ≠ .minLevel → (key.find? tree).isNone := by
        decide +kernel
      rw [Option.isNone_iff_eq_none.mp (habsent key key.mem_all hkey)] at hfound
      exact absurd hfound (by simp)
  exact ⟨⟨hproper, hdeclared⟩, defaults_agree hproper hdeclared⟩

end DefaultsWitness

end Logbook
