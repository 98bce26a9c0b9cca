/-
Values of the kinds that are declared for the settings.  Such a value is taken as it is, and of
all of them only an unknown level is ever refused.  Main statements: `Declared.refused` and
`ofMembers_of_unknown`.
-/
import Logbook.Proofs.Settings.Reading

namespace Logbook

namespace Settings

/-- A leaf of the kind that is declared for a setting, and the value that it gives, if any: a text
that should name a level may name none. -/
inductive Key.Gives : (key : Key) → Leaf → Option key.Value → Prop
  | nodeName (s : String) : Gives .nodeName (.text s) (some s)
  | minLevel (s : String) : Gives .minLevel (.text s) (Level.parse s).toOption
  | localOutput (b : Bool) : Gives .localOutput (.boolean b) (some b)
  | sequenceStart (n : UInt32) : Gives .sequenceStart (.integer n.toNat) (some n)
  | color (b : Bool) : Gives .color (.boolean b) (some b)
  | colorOf (level : Level) (s : String) : Gives (.colorOf level) (.text s) (some s)

/-- A value of its declared kind is taken as it is. -/
theorem Key.Gives.reading {key : Key} {value : Leaf} {given : Option key.Value}
    (h : key.Gives value given) (origin : Origin) :
    key.reading (some (.leaf origin value)) = given := by
  cases h with
  | nodeName s => rfl
  | minLevel s =>
      simp only [Key.reading, Key.convert, Conversion.level, Conversion.text, bind, Except.bind]
      cases Level.parse s <;> rfl
  | localOutput b => rfl
  | sequenceStart n =>
      have hsmall := n.toNat_lt
      have hread : Conversion.word (Key.place .sequenceStart) (.leaf origin (.integer n.toNat)) =
          .ok n := by
        simp only [Conversion.word, Conversion.natural, bind, Except.bind, Int.toNat_natCast]
        rw [if_pos (Int.natCast_nonneg _)]
        simp [hsmall, pure, Except.pure]
      exact congrArg Except.toOption hread
  | color b => rfl
  | colorOf level s => rfl

/-- Of values of their declared kinds only a level is ever refused. -/
theorem Key.Gives.eq_minLevel {key : Key} {value : Leaf} {given : Option key.Value}
    (h : key.Gives value given) (hnone : given = none) :
    key = .minLevel ∧ ∃ s unknown, value = .text s ∧ Level.parse s = .error unknown := by
  cases h with
  | minLevel s =>
      cases hparse : Level.parse s with
      | error unknown => exact ⟨rfl, s, unknown, rfl, hparse⟩
      | ok level => simp [hparse, Except.toOption] at hnone
  | _ => simp at hnone

/-- What a tree gives for settings is of the declared kinds. -/
def Declared (members : Members Node) : Prop :=
  ∀ (key : Key) (node : Node), key.find? members = some node →
    ∃ origin value given, node = .leaf origin value ∧ key.Gives value given

section Tree

variable {tree : Members Node}

/-- A tree of values of the declared kinds is refused when its level is unknown, and only then. -/
theorem Declared.refused (h : Declared tree) (hsections : Sectioned tree) :
    (ofMembers tree).toOption = none ↔
      ∃ origin s unknown, Key.find? .minLevel tree = some (.leaf origin (.text s)) ∧
        Level.parse s = .error unknown := by
  rw [ofMembers_eq_none_iff hsections]
  constructor
  · rintro ⟨key, hkey⟩
    cases hfound : key.find? tree with
    | none => simp [hfound, Key.reading] at hkey
    | some node =>
        obtain ⟨origin, value, given, rfl, hgives⟩ := h key node hfound
        rw [hfound, hgives.reading origin] at hkey
        obtain ⟨rfl, s, unknown, rfl, hparse⟩ := hgives.eq_minLevel hkey
        exact ⟨origin, s, unknown, hfound, hparse⟩
  · rintro ⟨origin, s, unknown, hfound, hparse⟩
    refine ⟨.minLevel, ?_⟩
    rw [hfound, (Key.Gives.minLevel s).reading origin, hparse]
    rfl

/-- The name of the node stands before the level, so it has to be right for the level to be
reached. -/
theorem readMembers_of_unknown {members : Members Node} {place : Place} {origin : Origin}
    {s : String} {unknown : UnknownLevel}
    (hname : ∀ node, members.get? "node_name" = some node →
      ∃ text, Conversion.text (.key "node_name" :: place) node = .ok text)
    (hfound : members.get? "min_level" = some (.leaf origin (.text s)))
    (hparse : Level.parse s = .error unknown) :
    Section.readMembers place members LoggerSettings.layout.fields {} =
      .error (.refused (.unknownLevel unknown) (.key "min_level" :: place)) := by
  have hlevel : Conversion.level (.key "min_level" :: place) (.leaf origin (.text s)) =
      .error (.refused (.unknownLevel unknown) (.key "min_level" :: place)) := by
    simp only [Conversion.level, Conversion.text, hparse, bind, Except.bind]
  cases hnode : members.get? "node_name" with
  | none =>
      simp [LoggerSettings.layout, Section.readMembers, Field.of, hnode, hfound, hlevel, bind,
        Except.bind, Except.map]
  | some node =>
      obtain ⟨text, htext⟩ := hname node hnode
      simp [LoggerSettings.layout, Section.readMembers, Field.of, hnode, htext, hfound, hlevel,
        bind, Except.bind, Except.map]

/-- A tree with an unknown level is refused with it, as long as the name of the node is right. -/
theorem ofMembers_of_unknown_of_name {origin : Origin} {s : String} {unknown : UnknownLevel}
    (hname : ∀ node, (below tree "logger").get? "node_name" = some node →
      ∃ text, Conversion.text (Key.place .nodeName) node = .ok text)
    (hfound : Key.find? .minLevel tree = some (.leaf origin (.text s)))
    (hparse : Level.parse s = .error unknown) :
    ofMembers tree = .error (.refused (.unknownLevel unknown) (Key.place .minLevel)) := by
  have hlogger : Section.readMembers [.key "logger"] (below tree "logger")
      LoggerSettings.layout.fields {} = _ := readMembers_of_unknown hname hfound hparse
  obtain ⟨origin', members, hnode, -⟩ := exists_table_of_get?_below hfound
  have hbelow : below tree "logger" = members := by
    rw [below, hnode]
    rfl
  rw [hbelow] at hlogger
  have hread : LoggerSettings.layout.read [.key "logger"] (.table origin' members) = _ := hlogger
  change Section.readMembers [] tree layout.fields {} = _
  simp only [layout, Section.readMembers, Field.of, hnode, hread, bind, Except.bind, Except.map]
  rfl

/-- A tree of values of the declared kinds with an unknown level is refused with it. -/
theorem ofMembers_of_unknown (h : Declared tree) {origin : Origin} {s : String}
    {unknown : UnknownLevel} (hfound : Key.find? .minLevel tree = some (.leaf origin (.text s)))
    (hparse : Level.parse s = .error unknown) :
    ofMembers tree = .error (.refused (.unknownLevel unknown) (Key.place .minLevel)) := by
  refine ofMembers_of_unknown_of_name ?_ hfound hparse
  intro node hnode
  obtain ⟨origin, value, given, rfl, hgives⟩ := h .nodeName node hnode
  cases hgives with
  | nodeName text => exact ⟨text, rfl⟩

end Tree

end Settings

end Logbook
