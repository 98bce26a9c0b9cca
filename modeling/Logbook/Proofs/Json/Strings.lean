/-
JSON strings.  The written form of a text has one part for each character, which reads as that
character and is passed over as a whole; none of its characters is a control character or a quote
that would end the string.
-/
import Logbook.Json.Token
import Logbook.Json.Value
import Mathlib.Data.List.Basic

namespace Logbook.Json

/-- What is written for a character. -/
def written (c : Char) : List Char :=
  (escape? c).getD [c]

theorem flatten_stringPieces (plain s : List Char) :
    (stringPieces plain s).flatten = plain.reverse ++ s.flatMap written := by
  have hplain : ∀ plain : List Char, (plainPiece plain).flatten = plain.reverse := by
    intro plain
    cases plain <;> simp [plainPiece]
  induction s generalizing plain with
  | nil => simp [stringPieces, hplain]
  | cons c s ih =>
      cases h : escape? c with
      | none => simp [stringPieces, written, h, ih]
      | some escape => simp [stringPieces, written, h, ih, hplain]

theorem flatten_quotedPieces (s : List Char) :
    (quotedPieces s).flatten = '"' :: s.flatMap written ++ ['"'] := by
  simp [quotedPieces, flatten_stringPieces]

/-- The three ways in which a character is written. -/
inductive Written (c : Char) : List Char → Prop where
  | plain (hquote : c ≠ '"') (hslash : c ≠ '\\') (hprinted : 0x20 ≤ c.toNat) : Written c [c]
  | short (letter : Char) (hletter : letter ≠ 'u') (hplain : 0x20 ≤ letter.toNat)
      (hmeaning : escaped? letter = some c) : Written c ['\\', letter]
  | numbered (a b : Char) (ha : 0x20 ≤ a.toNat) (hb : 0x20 ≤ b.toNat) (hcontrol : c.toNat < 0x20)
      (hmeaning : hexWord? '0' '0' a b = some c.toNat) :
      Written c ['\\', 'u', '0', '0', a, b]

/-- The digits of the number of a control character. -/
theorem hexWord?_digits (n : Nat) (h : n < 0x20) :
    hexWord? '0' '0' (n / 16).digitChar (n % 16).digitChar = some n ∧
      0x20 ≤ (n / 16).digitChar.toNat ∧ 0x20 ≤ (n % 16).digitChar.toNat := by
  decide +revert

theorem written_cases (c : Char) : Written c (written c) := by
  unfold written
  unfold escape?
  split
  case h_8 _ hquote hslash hb hf hn hr ht =>
    by_cases h : c.toNat < 0x20
    · rw [if_pos h]
      obtain ⟨hmeaning, ha, hb⟩ := hexWord?_digits c.toNat h
      exact Written.numbered _ _ ha hb h hmeaning
    · rw [if_neg h]
      exact Written.plain hquote hslash (Nat.le_of_not_lt h)
  all_goals exact Written.short _ (by decide) (by decide) rfl

/-- A part of a string as it is written: a character as it is, a letter behind a backslash, or a
character number. -/
inductive Part where
  | plain (c : Char) (hquote : c ≠ '"') (hslash : c ≠ '\\') (hprinted : 0x20 ≤ c.toNat)
  | short (letter c : Char) (hmeaning : escaped? letter = some c)
  | numbered (a b c d : Char) (n : Nat) (hmeaning : hexWord? a b c d = some n)

def Part.chars : Part → List Char
  | .plain c _ _ _ => [c]
  | .short letter _ _ => ['\\', letter]
  | .numbered a b c d _ _ => ['\\', 'u', a, b, c, d]

/-- What is written between the quotes of a string. -/
def inside (parts : List Part) : List Char :=
  parts.flatMap Part.chars

/-- The characters that the parts of a string stand for.  Halves of surrogate pairs must meet. -/
def meaning : List Part → StringText
  | [] => .ok []
  | .plain c _ _ _ :: rest => (meaning rest).map (c :: ·)
  | .short _ c _ :: rest => (meaning rest).map (c :: ·)
  | .numbered _ _ _ _ n _ :: rest =>
      if 0xdc00 ≤ n ∧ n ≤ 0xdfff then .error .malformed
      else if n < 0xd800 ∨ 0xdbff < n then (meaning rest).map (Char.ofNat n :: ·)
      else match rest with
        | .numbered _ _ _ _ m _ :: rest =>
            if m < 0xdc00 ∨ 0xdfff < m then .error .malformed
            else (meaning rest).map
              (Char.ofNat (0x10000 + (n - 0xd800) * 0x400 + (m - 0xdc00)) :: ·)
        | _ => .error .malformed

theorem inside_cons (part : Part) (parts : List Part) (rest : List Char) :
    inside (part :: parts) ++ rest = part.chars ++ (inside parts ++ rest) := by
  rw [inside, List.flatMap_cons, List.append_assoc, inside]

/-- The letter of a character number has no other meaning. -/
theorem ne_u_of_escaped? {letter c : Char} (h : escaped? letter = some c) : letter ≠ 'u' := by
  rintro rfl
  simp [escaped?] at h

theorem skipString_part (part : Part) (rest : List Char) :
    skipString (part.chars ++ rest) = skipString rest := by
  rcases part with ⟨c, hquote, hslash, hprinted⟩ | ⟨letter, c, hmeaning⟩ | ⟨a, b, c, d, n, hmeaning⟩
  · have hlow : ¬c.toNat < 0x20 := by omega
    simp [Part.chars, skipString, hquote, hslash, hlow]
  · simp [Part.chars, skipString, ne_u_of_escaped? hmeaning, hmeaning]
  · simp [Part.chars, skipString, hmeaning]

/-- A string is passed over up to its closing quote, and nothing of what follows. -/
theorem skipString_inside (parts : List Part) (rest : List Char) :
    skipString (inside parts ++ '"' :: rest) = .ok rest := by
  induction parts with
  | nil => simp [inside, skipString]
  | cons part parts ih => rw [inside_cons, skipString_part, ih]

/-- A high half of a surrogate pair needs the low half right behind it. -/
theorem readString_half {a b c d : Char} {n : Nat} (hmeaning : hexWord? a b c d = some n)
    (hlow : ¬(0xdc00 ≤ n ∧ n ≤ 0xdfff)) (hhigh : ¬(n < 0xd800 ∨ 0xdbff < n)) {parts : List Part}
    (h : ∀ a b c d n hmeaning rest, parts ≠ .numbered a b c d n hmeaning :: rest)
    (rest : List Char) :
    readString ('\\' :: 'u' :: a :: b :: c :: d :: (inside parts ++ '"' :: rest)) =
      .error .malformed := by
  rcases parts with _ | ⟨part, parts⟩
  · simp [inside, readString, hmeaning, hlow, hhigh]
  · rw [inside_cons]
    rcases part with ⟨c, hquote, hslash, hprinted⟩ | ⟨letter, c, hshort⟩ | ⟨a, b, c, d, n, hnumber⟩
    · simp [Part.chars, readString, hmeaning, hlow, hhigh, hslash]
    · simp [Part.chars, readString, hmeaning, hlow, hhigh, ne_u_of_escaped? hshort]
    · exact absurd rfl (h a b c d n hnumber parts)

/-- A string is read as its parts. -/
theorem readString_inside (parts : List Part) (rest : List Char) :
    readString (inside parts ++ '"' :: rest) = meaning parts := by
  -- The cases are those of `meaning`.  Only behind a high half does the next part matter.
  fun_induction meaning parts with
  | case1 => simp [inside, readString]
  | case2 c hquote hslash hprinted parts ih =>
      have hlow : ¬c.toNat < 0x20 := by omega
      rw [inside_cons]
      simp [Part.chars, readString, hquote, hslash, hlow, ih]
  | case3 letter c hmeaning parts ih =>
      rw [inside_cons]
      simp [Part.chars, readString, ne_u_of_escaped? hmeaning, hmeaning, ih]
  | case4 a b c d n hmeaning parts hlow =>
      rw [inside_cons]
      simp [Part.chars, readString, hmeaning, hlow]
  | case5 a b c d n hmeaning parts hlow hhigh ih =>
      rw [inside_cons]
      simp only [Part.chars, List.cons_append, List.nil_append, readString, hmeaning]
      rw [if_neg hlow, if_pos hhigh, ih]
  | case6 a b c d n hmeaning hlow hhigh a' b' c' d' m hmeaning' parts hother =>
      rw [inside_cons, inside_cons]
      simp only [Part.chars, List.cons_append, List.nil_append, readString, hmeaning, hmeaning']
      rw [if_neg hlow, if_neg hhigh, if_pos hother]
  | case7 a b c d n hmeaning hlow hhigh a' b' c' d' m hmeaning' parts hother ih =>
      rw [inside_cons, inside_cons]
      simp only [Part.chars, List.cons_append, List.nil_append, readString, hmeaning, hmeaning']
      rw [if_neg hlow, if_neg hhigh, if_neg hother, ih]
  | case8 a b c d n hmeaning parts hlow hhigh hother =>
      rw [inside_cons]
      exact readString_half hmeaning hlow hhigh hother rest

theorem spanString_inside (parts : List Part) (rest : List Char) :
    spanString (inside parts ++ '"' :: rest) = .ok (.string (meaning parts), rest) := by
  rw [spanString, skipString_inside, readString_inside]

/-- What is written for a character is a part that means it. -/
theorem Written.exists_part {c : Char} {text : List Char} (h : Written c text) :
    ∃ part : Part, part.chars = text ∧
      ∀ rest, meaning (part :: rest) = (meaning rest).map (c :: ·) := by
  rcases h with ⟨hquote, hslash, hprinted⟩ | ⟨letter, hletter, hplain, hmeaning⟩ |
    ⟨a, b, ha, hb, hcontrol, hmeaning⟩
  · exact ⟨.plain c hquote hslash hprinted, rfl, fun rest => by rw [meaning]⟩
  · exact ⟨.short letter c hmeaning, rfl, fun rest => by rw [meaning]⟩
  · have hlow : ¬(0xdc00 ≤ c.toNat ∧ c.toNat ≤ 0xdfff) := by omega
    have hhigh : c.toNat < 0xd800 ∨ 0xdbff < c.toNat := by omega
    refine ⟨.numbered '0' '0' a b c.toNat hmeaning, rfl, fun rest => ?_⟩
    rw [meaning.eq_def]
    simp only [if_neg hlow, if_pos hhigh, Char.ofNat_toNat]

/-- What is written for a text are parts that mean it. -/
theorem exists_parts (s : List Char) :
    ∃ parts, inside parts = s.flatMap written ∧ meaning parts = .ok s := by
  induction s with
  | nil => exact ⟨[], rfl, rfl⟩
  | cons c s ih =>
      obtain ⟨parts, hinside, hmeaning⟩ := ih
      obtain ⟨part, hchars, hmeans⟩ := (written_cases c).exists_part
      refine ⟨part :: parts, ?_, ?_⟩
      · rw [inside, List.flatMap_cons, hchars, List.flatMap_cons, ← hinside, inside]
      · rw [hmeans, hmeaning]
        rfl

/-- A text without control characters. -/
def Printed (text : List Char) : Prop :=
  ∀ c ∈ text, 0x20 ≤ c.toNat

theorem printed_nil : Printed [] := by
  intro c hc
  exact absurd hc List.not_mem_nil

theorem printed_cons {c : Char} {text : List Char} :
    Printed (c :: text) ↔ 0x20 ≤ c.toNat ∧ Printed text := by
  simp [Printed]

theorem printed_append {first second : List Char} :
    Printed (first ++ second) ↔ Printed first ∧ Printed second := by
  simp only [Printed, List.mem_append, or_imp, forall_and]

theorem printed_written (c : Char) : Printed (written c) := by
  have hwritten := written_cases c
  generalize written c = text at hwritten
  cases hwritten with
  | plain hquote hslash hprinted => simpa [Printed] using hprinted
  | short letter hletter hplain hmeaning => simp [Printed, hplain]
  | numbered a b ha hb hcontrol hmeaning => simp [Printed, ha, hb]

/-- No string is written with a control character, whatever its text. -/
theorem printed_quotedPieces (s : List Char) : Printed (quotedPieces s).flatten := by
  rw [flatten_quotedPieces, printed_append, printed_cons]
  refine ⟨⟨by decide, ?_⟩, by simp [Printed]⟩
  intro c hc
  obtain ⟨d, -, hd⟩ := List.mem_flatMap.mp hc
  exact printed_written d c hd

end Logbook.Json
