/-
Names of levels.  A text names a level exactly when it is one of the names of the level in any
mixture of ASCII cases, between any blanks; no other characters are folded, so nothing that only
looks like a letter of a name stands for it.  Every other text is refused, and the complaint carries
it as it came.  Main statements: `Level.parse_eq_ok_iff` and `Level.parse_eq_error_iff`.
-/
import Logbook.Level
import Mathlib.Data.List.DropRight
import Mathlib.Data.List.Forall2
import Mathlib.Data.List.TakeWhile

namespace Logbook

namespace Text

/-- A capital letter of ASCII and its small letter. -/
def IsCapitalOf (c d : Char) : Prop :=
  c.isUpper = true ∧ d.toNat = c.toNat + 32

/-- The same character, up to the case of letters of ASCII. -/
def SameLetter (c d : Char) : Prop :=
  c = d ∨ IsCapitalOf c d ∨ IsCapitalOf d c

/-- A text is a name in any mixture of ASCII cases, between any blanks. -/
def Variant (name s : String) : Prop :=
  ∃ before letters after : List Char, s.toList = before ++ letters ++ after ∧
    (∀ c ∈ before, isBlank c = true) ∧ (∀ c ∈ after, isBlank c = true) ∧
    List.Forall₂ SameLetter letters name.toList

theorem isUpper_iff {c : Char} : c.isUpper = true ↔ 65 ≤ c.toNat ∧ c.toNat ≤ 90 := by
  change decide ('A'.val ≤ c.val ∧ c.val ≤ 'Z'.val) = true ↔ _
  rw [decide_eq_true_eq, UInt32.le_iff_toNat_le, UInt32.le_iff_toNat_le, Char.toNat_val]
  rfl

theorem toNat_toLower (c : Char) :
    c.toLower.toNat = if c.isUpper then c.toNat + 32 else c.toNat := by
  by_cases hupper : c.isUpper = true
  · have hrange := isUpper_iff.mp hupper
    have hlower : c.toLower.toNat = (c.val + ('a'.val - 'A'.val)).toNat :=
      congrArg Char.toNat (dif_pos (of_decide_eq_true hupper))
    have hshift : ('a'.val - 'A'.val).toNat = 32 := by decide
    rw [if_pos hupper, hlower, UInt32.toNat_add, hshift, Char.toNat_val]
    omega
  · rw [if_neg hupper]
    exact congrArg Char.toNat (dif_neg fun hrange => hupper (decide_eq_true hrange))

/-- Two characters fold to the same one exactly when they are the same up to case. -/
theorem toLower_eq_toLower_iff {c d : Char} : c.toLower = d.toLower ↔ SameLetter c d := by
  simp only [← Char.toNat_inj, toNat_toLower, SameLetter, IsCapitalOf, isUpper_iff]
  split <;> split <;> omega

theorem map_toLower_eq_iff {s t : List Char} :
    s.map Char.toLower = t.map Char.toLower ↔ List.Forall₂ SameLetter s t := by
  rw [← List.forall₂_eq_eq_eq, List.forall₂_map_left_iff, List.forall₂_map_right_iff]
  simp only [toLower_eq_toLower_iff]

/-- No letter of ASCII is blank, so folding does not change which characters are. -/
theorem isBlank_toLower (c : Char) : isBlank c.toLower = isBlank c := by
  have hfold := toNat_toLower c
  simp only [isUpper_iff] at hfold
  rw [Bool.eq_iff_iff]
  simp only [isBlank, inRanges, blankRanges, List.any_cons, List.any_nil, Bool.or_eq_true,
    Bool.and_eq_true, decide_eq_true_eq, Bool.false_eq_true, or_false]
  split at hfold <;> omega

/-- What trimming takes away stands at the ends and is blank. -/
theorem exists_trimChars (s : List Char) :
    ∃ before after, s = before ++ trimChars s ++ after ∧ (∀ c ∈ before, isBlank c = true) ∧
      ∀ c ∈ after, isBlank c = true := by
  have hend : trimChars s ++ (s.dropWhile isBlank).rtakeWhile isBlank = s.dropWhile isBlank :=
    List.rdropWhile_append_rtakeWhile
  refine ⟨s.takeWhile isBlank, (s.dropWhile isBlank).rtakeWhile isBlank, ?_, ?_, ?_⟩
  · rw [List.append_assoc, hend, List.takeWhile_append_dropWhile]
  · exact fun c hc => List.mem_takeWhile_imp hc
  · exact fun c hc => List.mem_rtakeWhile_imp hc

/-- Trimming leaves what stands between the blanks at the ends. -/
theorem trimChars_append {before letters after : List Char}
    (hbefore : ∀ c ∈ before, isBlank c = true) (hafter : ∀ c ∈ after, isBlank c = true)
    (hletters : ∀ c ∈ letters, isBlank c = false) :
    trimChars (before ++ letters ++ after) = letters := by
  have hstart : (letters ++ after).dropWhile isBlank = letters ++ after.dropWhile isBlank ∨
      (letters ++ after).dropWhile isBlank = letters ++ after := by
    cases letters with
    | nil => exact Or.inl rfl
    | cons c rest => exact Or.inr (List.dropWhile_cons_of_neg (by simp [hletters]))
  have hnone : after.dropWhile isBlank = [] := List.dropWhile_eq_nil_iff.mpr hafter
  have hend : letters.reverse.dropWhile isBlank = letters.reverse := by
    rw [List.dropWhile_eq_self_iff]
    intro hlength
    have hfirst := hletters _ (List.mem_reverse.mp (List.getElem_mem hlength))
    rw [hfirst]
    exact Bool.false_ne_true
  rw [trimChars, List.append_assoc, List.dropWhile_append_of_pos hbefore, trimEnd]
  rcases hstart with hdrop | hdrop
  · rw [hdrop, hnone, List.append_nil, hend, List.reverse_reverse]
  · rw [hdrop, List.reverse_append,
      List.dropWhile_append_of_pos fun c hc => hafter c (List.mem_reverse.mp hc), hend,
      List.reverse_reverse]

/-- The texts that fold to a name in small letters are its variants. -/
theorem foldName_eq_iff {name s : String} (hsmall : name.toList.map Char.toLower = name.toList)
    (hname : ∀ c ∈ name.toList, isBlank c = false) : foldName s = name ↔ Variant name s := by
  have hfold : foldName s = name ↔
      List.Forall₂ SameLetter (trimChars s.toList) name.toList := by
    rw [← map_toLower_eq_iff, hsmall, foldName, asciiLower, trim, String.toList_ofList,
      ← String.toList_inj, String.toList_ofList]
  rw [hfold]
  constructor
  · intro hletters
    obtain ⟨before, after, hs, hbefore, hafter⟩ := exists_trimChars s.toList
    exact ⟨before, _, after, hs, hbefore, hafter, hletters⟩
  · rintro ⟨before, letters, after, hs, hbefore, hafter, hletters⟩
    have hblank : ∀ c ∈ letters, isBlank c = false := by
      intro c hc
      have hmem := List.mem_map_of_mem (f := Char.toLower) hc
      rw [map_toLower_eq_iff.mpr hletters, hsmall] at hmem
      rw [← isBlank_toLower, hname _ hmem]
    rwa [hs, trimChars_append hbefore hafter hblank]

end Text

namespace Level

/-- The names of a level, in small letters. -/
def names : Level → List String
  | .debug => ["debug"]
  | .info => ["info"]
  | .warn => ["warn", "warning"]
  | .error => ["error"]
  | .fatal => ["fatal"]

/-- A text names a level: it is a name of it in any mixture of ASCII cases, between any blanks. -/
def Named (level : Level) (s : String) : Prop :=
  ∃ name ∈ level.names, Text.Variant name s

theorem ofFoldedName?_eq_some_iff {folded : String} {level : Level} :
    ofFoldedName? folded = some level ↔ folded ∈ level.names := by
  constructor
  · intro h
    unfold ofFoldedName? at h
    split at h
    case h_7 => simp at h
    all_goals
      obtain rfl := Option.some.inj h
      simp [names]
  · intro h
    cases level <;> simp only [names, List.mem_cons, List.not_mem_nil, or_false] at h
    case warn => rcases h with rfl | rfl <;> rfl
    all_goals
      subst h
      rfl

/-- The names are in small letters, without blanks. -/
theorem small_of_mem_names {level : Level} {name : String} (h : name ∈ level.names) :
    name.toList.map Char.toLower = name.toList ∧ ∀ c ∈ name.toList, Text.isBlank c = false := by
  have hall : ∀ level ∈ all, ∀ name ∈ level.names,
      name.toList.map Char.toLower = name.toList ∧
        name.toList.all (!Text.isBlank ·) = true := by
    decide +kernel
  have hlevel : level ∈ all := by cases level <;> decide
  obtain ⟨hsmall, hblank⟩ := hall level hlevel name h
  exact ⟨hsmall, by simpa using hblank⟩

/-- What the names of levels are. -/
theorem parse_eq_ok_iff {s : String} {level : Level} :
    parse s = .ok level ↔ level.Named s := by
  have hparse : parse s = .ok level ↔ ofFoldedName? (Text.foldName s) = some level := by
    unfold parse
    cases ofFoldedName? (Text.foldName s) <;> simp
  rw [hparse, ofFoldedName?_eq_some_iff]
  constructor
  · intro hmem
    obtain ⟨hsmall, hblank⟩ := small_of_mem_names hmem
    exact ⟨_, hmem, (Text.foldName_eq_iff hsmall hblank).mp rfl⟩
  · rintro ⟨name, hmem, hvariant⟩
    obtain ⟨hsmall, hblank⟩ := small_of_mem_names hmem
    rwa [(Text.foldName_eq_iff hsmall hblank).mpr hvariant]

/-- A text that names no level is refused, and the complaint has it as it came. -/
theorem parse_eq_error_iff {s : String} {unknown : UnknownLevel} :
    parse s = .error unknown ↔ unknown = ⟨s⟩ ∧ ∀ level : Level, ¬level.Named s := by
  simp only [← parse_eq_ok_iff]
  cases hparse : parse s with
  | ok level => simp
  | error problem =>
      have hproblem : problem = ⟨s⟩ := by
        unfold parse at hparse
        split at hparse
        · exact absurd hparse (by simp)
        · exact (Except.error.inj hparse).symm
      simp [hproblem, eq_comm]

-- The dotted capital I is an i to Unicode, but not to ASCII.
example : parse "\u0130nfo" = .error ⟨"\u0130nfo"⟩ := by cbv

theorem named_of_variant_name {level : Level} {s : String} (h : Text.Variant level.name s) :
    level.Named s := by
  obtain ⟨small, hmem, hsame⟩ : ∃ small ∈ level.names,
      level.name.toList.map Char.toLower = small.toList.map Char.toLower := by
    cases level <;> exact ⟨_, List.mem_cons_self, by decide⟩
  obtain ⟨before, letters, after, hs, hbefore, hafter, hletters⟩ := h
  refine ⟨small, hmem, before, letters, after, hs, hbefore, hafter, ?_⟩
  rwa [← Text.map_toLower_eq_iff, ← hsame, Text.map_toLower_eq_iff]

/-- What a level shows reads back as that level, in any mixture of cases and between any blanks. -/
theorem parse_of_variant_name {level : Level} {s : String} (h : Text.Variant level.name s) :
    parse s = .ok level :=
  parse_eq_ok_iff.mpr (named_of_variant_name h)

theorem parse_name (level : Level) : parse level.name = .ok level := by
  apply parse_of_variant_name
  refine ⟨[], level.name.toList, [], by simp, List.forall_mem_nil _, List.forall_mem_nil _, ?_⟩
  exact List.forall₂_same.mpr fun c _ => Or.inl rfl

end Level

end Logbook
