/-
Bytes of texts.  Reading the bytes of a text gives the text back, and a byte of ASCII stands for
its own character only: it is found nowhere else, and it ends whatever was begun before it.
-/
import Logbook.Text.Utf8
import Mathlib.Data.List.Basic

namespace Logbook.Text

/-- Reading goes on after a first byte of a longer character. -/
theorem decodeFrom_first {b : UInt8} {width : Nat} (hwidth : widthOfFirst? b.toNat = some width)
    (hlong : 1 < width) (rest : List UInt8) :
    decodeFrom none (b :: rest) =
      decodeFrom (some ⟨firstBits width b.toNat, width - 1, secondRange b.toNat⟩) rest := by
  have hne : width ≠ 1 := by omega
  simp [decodeFrom, decodeStep, decodeStart, hwidth]

theorem decodeFrom_ascii {b : UInt8} (h : b.toNat < 0x80) (rest : List UInt8) :
    decodeFrom none (b :: rest) = Char.ofNat b.toNat :: decodeFrom none rest := by
  simp [decodeFrom, decodeStep, decodeStart, widthOfFirst?, h]

/-- Reading goes on after a byte in the middle of a character. -/
theorem decodeFrom_middle {p : PartialChar} {b : UInt8} (hlow : p.next.1 ≤ b.toNat)
    (hhigh : b.toNat ≤ p.next.2) (hmissing : 1 < p.missing) (rest : List UInt8) :
    decodeFrom (some p) (b :: rest) =
      decodeFrom (some ⟨p.value * 0x40 + b.toNat % 0x40, p.missing - 1, (0x80, 0xbf)⟩) rest := by
  have hmore : ¬p.missing ≤ 1 := by omega
  simp [decodeFrom, decodeStep, hlow, hhigh, hmore]

/-- The last byte of a character completes it. -/
theorem decodeFrom_last {p : PartialChar} {b : UInt8} (hlow : p.next.1 ≤ b.toNat)
    (hhigh : b.toNat ≤ p.next.2) (hmissing : p.missing ≤ 1) (rest : List UInt8) :
    decodeFrom (some p) (b :: rest) =
      Char.ofNat (p.value * 0x40 + b.toNat % 0x40) :: decodeFrom none rest := by
  simp [decodeFrom, decodeStep, hlow, hhigh, hmissing]

/-- The number of a byte, with a bound that arithmetic can see. -/
theorem toNat_ofNat_of_lt {n : Nat} (h : n < 256) : (UInt8.ofNat n).toNat = n :=
  UInt8.toNat_ofNat_of_lt' h

/-- The bytes of the longer characters, by the number of bytes. -/
inductive Spelled (c : Char) : List UInt8 → Prop where
  | two (a b : UInt8) (hvalue : c.toNat = (a.toNat - 0xc0) * 0x40 + (b.toNat - 0x80))
      (ha : 0xc2 ≤ a.toNat ∧ a.toNat ≤ 0xdf) (hb : 0x80 ≤ b.toNat ∧ b.toNat ≤ 0xbf) :
      Spelled c [a, b]
  | three (a b d : UInt8)
      (hvalue : c.toNat = ((a.toNat - 0xe0) * 0x40 + (b.toNat - 0x80)) * 0x40 + (d.toNat - 0x80))
      (ha : 0xe0 ≤ a.toNat ∧ a.toNat ≤ 0xef)
      (hb : (secondRange a.toNat).1 ≤ b.toNat ∧ b.toNat ≤ (secondRange a.toNat).2)
      (hd : 0x80 ≤ d.toNat ∧ d.toNat ≤ 0xbf) : Spelled c [a, b, d]
  | four (a b d e : UInt8)
      (hvalue : c.toNat = (((a.toNat - 0xf0) * 0x40 + (b.toNat - 0x80)) * 0x40 +
        (d.toNat - 0x80)) * 0x40 + (e.toNat - 0x80))
      (ha : 0xf0 ≤ a.toNat ∧ a.toNat ≤ 0xf4)
      (hb : (secondRange a.toNat).1 ≤ b.toNat ∧ b.toNat ≤ (secondRange a.toNat).2)
      (hd : 0x80 ≤ d.toNat ∧ d.toNat ≤ 0xbf) (he : 0x80 ≤ e.toNat ∧ e.toNat ≤ 0xbf) :
      Spelled c [a, b, d, e]

theorem utf8EncodeChar_ascii {c : Char} (h : c.toNat < 0x80) :
    String.utf8EncodeChar c = [UInt8.ofNat c.toNat] := by
  have hle : c.val.toNat ≤ 0x7f := by
    have : c.toNat = c.val.toNat := rfl
    omega
  rw [String.utf8EncodeChar, if_pos hle]
  rfl

theorem spelled_utf8EncodeChar {c : Char} (h : 0x80 ≤ c.toNat) :
    Spelled c (String.utf8EncodeChar c) := by
  have hval : c.val.toNat = c.toNat := rfl
  have hvalid : c.toNat < 0xd800 ∨ 0xdfff < c.toNat ∧ c.toNat < 0x110000 := c.valid
  have h1 : ¬c.toNat ≤ 0x7f := by omega
  simp only [String.utf8EncodeChar, hval, if_neg h1]
  by_cases h2 : c.toNat ≤ 0x7ff
  · rw [if_pos h2]
    apply Spelled.two
    all_goals
      rw [toNat_ofNat_of_lt (by omega)]
      try rw [toNat_ofNat_of_lt (by omega)]
      omega
  · rw [if_neg h2]
    by_cases h3 : c.toNat ≤ 0xffff
    · rw [if_pos h3]
      apply Spelled.three
      all_goals
        repeat rw [toNat_ofNat_of_lt (by omega)]
        try unfold secondRange
        grind
    · rw [if_neg h3]
      apply Spelled.four
      all_goals
        repeat rw [toNat_ofNat_of_lt (by omega)]
        try unfold secondRange
        grind

theorem widthOfFirst?_two {n : Nat} (h : 0xc2 ≤ n ∧ n ≤ 0xdf) : widthOfFirst? n = some 2 := by
  have hlarge : ¬n < 0x80 := by omega
  simp [widthOfFirst?, hlarge, h]

theorem widthOfFirst?_three {n : Nat} (h : 0xe0 ≤ n ∧ n ≤ 0xef) : widthOfFirst? n = some 3 := by
  have hlarge : ¬n < 0x80 := by omega
  have hnot : ¬n ≤ 0xdf := by omega
  simp [widthOfFirst?, hlarge, hnot, h]

theorem widthOfFirst?_four {n : Nat} (h : 0xf0 ≤ n ∧ n ≤ 0xf4) : widthOfFirst? n = some 4 := by
  have hlarge : ¬n < 0x80 := by omega
  have hnot : ¬n ≤ 0xdf := by omega
  have hnot' : ¬n ≤ 0xef := by omega
  simp [widthOfFirst?, hlarge, hnot, hnot', h]

theorem secondRange_two {n : Nat} (h : 0xc2 ≤ n ∧ n ≤ 0xdf) : secondRange n = (0x80, 0xbf) := by
  unfold secondRange
  repeat rw [if_neg (by omega)]

/-- The second byte of a character is no byte of ASCII, and leaves six bits. -/
theorem secondRange_le (first : Nat) :
    0x80 ≤ (secondRange first).1 ∧ (secondRange first).2 ≤ 0xbf := by
  unfold secondRange
  grind

/-- The bytes of a character read as that character. -/
theorem decodeFrom_char (c : Char) (rest : List UInt8) :
    decodeFrom none (String.utf8EncodeChar c ++ rest) = c :: decodeFrom none rest := by
  by_cases h : c.toNat < 0x80
  · have hbyte : (UInt8.ofNat c.toNat).toNat = c.toNat := toNat_ofNat_of_lt (by omega)
    rw [utf8EncodeChar_ascii h, List.singleton_append, decodeFrom_ascii (by omega), hbyte,
      Char.ofNat_toNat]
  · have hspelled := spelled_utf8EncodeChar (Nat.le_of_not_lt h)
    generalize String.utf8EncodeChar c = bytes at hspelled
    cases hspelled with
    | two a b hvalue ha hb =>
        have hnumber : firstBits 2 a.toNat * 0x40 + b.toNat % 0x40 = c.toNat := by
          simp only [firstBits]
          omega
        simp only [List.cons_append, List.nil_append]
        rw [decodeFrom_first (widthOfFirst?_two ha) (by omega), secondRange_two ha,
          decodeFrom_last hb.1 hb.2 (by simp), hnumber, Char.ofNat_toNat]
    | three a b d hvalue ha hb hd =>
        have hsecond := secondRange_le a.toNat
        have hnumber : (firstBits 3 a.toNat * 0x40 + b.toNat % 0x40) * 0x40 + d.toNat % 0x40 =
            c.toNat := by
          simp only [firstBits]
          omega
        simp only [List.cons_append, List.nil_append]
        rw [decodeFrom_first (widthOfFirst?_three ha) (by omega),
          decodeFrom_middle hb.1 hb.2 (by simp), decodeFrom_last hd.1 hd.2 (by simp), hnumber,
          Char.ofNat_toNat]
    | four a b d e hvalue ha hb hd he =>
        have hsecond := secondRange_le a.toNat
        have hnumber : ((firstBits 4 a.toNat * 0x40 + b.toNat % 0x40) * 0x40 + d.toNat % 0x40) *
            0x40 + e.toNat % 0x40 = c.toNat := by
          simp only [firstBits]
          omega
        simp only [List.cons_append, List.nil_append]
        rw [decodeFrom_first (widthOfFirst?_four ha) (by omega),
          decodeFrom_middle hb.1 hb.2 (by simp), decodeFrom_middle hd.1 hd.2 (by simp),
          decodeFrom_last he.1 he.2 (by simp), hnumber, Char.ofNat_toNat]

theorem decodeFrom_utf8 (s : List Char) (rest : List UInt8) :
    decodeFrom none (utf8 s ++ rest) = s ++ decodeFrom none rest := by
  induction s with
  | nil => rfl
  | cons c s ih =>
      have hcons : utf8 (c :: s) = String.utf8EncodeChar c ++ utf8 s := rfl
      rw [hcons, List.append_assoc, decodeFrom_char, ih, List.cons_append]

/-- The bytes of a text read as that text. -/
theorem ofBytes_utf8 (s : List Char) : ofBytes (utf8 s) = String.ofList s := by
  have h := decodeFrom_utf8 s []
  rw [List.append_nil] at h
  rw [ofBytes, h]
  simp [decodeFrom]

/-- A byte of ASCII stands for its own character. -/
theorem exists_of_mem_utf8 {s : List Char} {b : UInt8} (hmem : b ∈ utf8 s) (hb : b.toNat < 0x80) :
    ∃ c ∈ s, c.toNat = b.toNat := by
  obtain ⟨c, hc, hbc⟩ := List.mem_flatMap.mp hmem
  refine ⟨c, hc, ?_⟩
  by_cases h : c.toNat < 0x80
  · rw [utf8EncodeChar_ascii h, List.mem_singleton] at hbc
    rw [hbc, toNat_ofNat_of_lt (by omega)]
  · have hspelled := spelled_utf8EncodeChar (Nat.le_of_not_lt h)
    generalize String.utf8EncodeChar c = bytes at hspelled hbc
    cases hspelled with
    | two a b hvalue ha hb =>
        simp only [List.mem_cons, List.not_mem_nil, or_false] at hbc
        rcases hbc with rfl | rfl <;> omega
    | three a b d hvalue ha hb hd =>
        have hsecond := secondRange_le a.toNat
        simp only [List.mem_cons, List.not_mem_nil, or_false] at hbc
        rcases hbc with rfl | rfl | rfl <;> omega
    | four a b d e hvalue ha hb hd he =>
        have hsecond := secondRange_le a.toNat
        simp only [List.mem_cons, List.not_mem_nil, or_false] at hbc
        rcases hbc with rfl | rfl | rfl | rfl <;> omega

/-- An unfinished character never waits for a byte of ASCII. -/
theorem le_next_of_decodeStep {pending : Option PartialChar} {b : UInt8} {p : PartialChar}
    (h : (decodeStep pending b).2 = some p) : 0x80 ≤ p.next.1 := by
  have hstart : ∀ b p, (decodeStart b).2 = some p → 0x80 ≤ p.next.1 := by
    intro b p h
    dsimp only [decodeStart] at h
    split at h
    · simp at h
    · simp at h
    · obtain rfl := by simpa using h
      exact (secondRange_le b.toNat).1
  cases pending with
  | none => exact hstart b p h
  | some q =>
      simp only [decodeStep] at h
      split at h
      · split at h
        · simp at h
        · obtain rfl := by simpa using h
          simp
      · exact hstart b p h

/-- Bytes read apart from what follows, when a byte of ASCII follows. -/
theorem decodeFrom_append_ascii (bytes rest : List UInt8)
    (hrest : ∀ b ∈ rest.head?, b.toNat < 0x80) (pending : Option PartialChar)
    (hpending : ∀ p ∈ pending, 0x80 ≤ p.next.1) :
    decodeFrom pending (bytes ++ rest) = decodeFrom pending bytes ++ decodeFrom none rest := by
  induction bytes generalizing pending with
  | nil =>
      cases pending with
      | none => rfl
      | some p =>
          cases rest with
          | nil => simp [decodeFrom]
          | cons b rest =>
              have hb := hrest b rfl
              have hp := hpending p rfl
              have hnot : ¬(p.next.1 ≤ b.toNat ∧ b.toNat ≤ p.next.2) := by omega
              simp [decodeFrom, decodeStep, if_neg hnot]
  | cons b bytes ih =>
      have hnext : ∀ p ∈ (decodeStep pending b).2, 0x80 ≤ p.next.1 :=
        fun p hp => le_next_of_decodeStep hp
      simp only [List.cons_append, decodeFrom]
      rw [ih _ hnext, List.append_assoc]

/-- Some bytes are those of a text. -/
def IsText (bytes : List UInt8) : Prop :=
  ∃ s : String, utf8 s.toList = bytes

/-- A byte of ASCII stands in the bytes of a character only as all of them. -/
theorem utf8EncodeChar_eq_of_mem {c : Char} {b : UInt8} (hb : b ∈ String.utf8EncodeChar c)
    (hascii : b.toNat < 0x80) : String.utf8EncodeChar c = [b] := by
  by_cases hc : c.toNat < 0x80
  · have hsingle := utf8EncodeChar_ascii hc
    rw [hsingle, List.mem_singleton] at hb
    rw [hsingle, hb]
  · have hspelled := spelled_utf8EncodeChar (Nat.le_of_not_lt hc)
    generalize String.utf8EncodeChar c = bytes at hb hspelled
    cases hspelled with
    | two a d hvalue ha hd => grind
    | three a d e hvalue ha hd he =>
        have hsecond := secondRange_le a.toNat
        grind
    | four a d e f hvalue ha hd he hf =>
        have hsecond := secondRange_le a.toNat
        grind

/-- A byte of ASCII among the bytes of a text stands between two texts. -/
theorem exists_of_utf8_eq_append {s : List Char} {before after : List UInt8} {b : UInt8}
    (hascii : b.toNat < 0x80) (h : utf8 s = before ++ b :: after) :
    ∃ t u, utf8 t = before ∧ utf8 u = after := by
  induction s generalizing before with
  | nil => simp [utf8] at h
  | cons c rest ih =>
      rw [utf8, List.flatMap_cons] at h
      rcases List.append_eq_append_iff.mp h with ⟨more, hbefore, hrest⟩ | ⟨more, hc, hafter⟩
      · obtain ⟨t, u, ht, hu⟩ := ih hrest
        exact ⟨c :: t, u, by rw [hbefore, utf8, List.flatMap_cons, ← utf8, ht], hu⟩
      · cases more with
        | nil =>
            obtain ⟨t, u, ht, hu⟩ := @ih [] hafter.symm
            refine ⟨c :: t, u, ?_, hu⟩
            rw [utf8, List.flatMap_cons, ← utf8, ht, hc, List.append_nil, List.append_nil]
        | cons x more =>
            obtain ⟨rfl, rfl⟩ := List.cons.inj hafter
            have hb : b ∈ String.utf8EncodeChar c := by
              rw [hc]
              exact List.mem_append_right before List.mem_cons_self
            have hsingle := utf8EncodeChar_eq_of_mem hb hascii
            rw [hc] at hsingle
            obtain ⟨rfl, rfl⟩ : before = [] ∧ more = [] := by
              simpa [List.append_eq_cons_iff] using hsingle
            exact ⟨[], rest, rfl, rfl⟩

theorem isText_append {before after : List UInt8} (hbefore : IsText before)
    (hafter : IsText after) : IsText (before ++ after) := by
  obtain ⟨s, rfl⟩ := hbefore
  obtain ⟨t, rfl⟩ := hafter
  exact ⟨s ++ t, by simp [utf8]⟩

theorem isText_ascii {b : UInt8} (h : b.toNat < 0x80) : IsText [b] := by
  have hchar : (Char.ofUInt8 b).toNat = b.toNat := rfl
  refine ⟨String.ofList [Char.ofUInt8 b], ?_⟩
  simp [utf8, utf8EncodeChar_ascii (hchar ▸ h), hchar]

/-- Bytes around a byte of ASCII are a text exactly when the bytes on both sides are. -/
theorem isText_append_cons {b : UInt8} (h : b.toNat < 0x80) (before after : List UInt8) :
    IsText (before ++ b :: after) ↔ IsText before ∧ IsText after := by
  constructor
  · rintro ⟨s, hs⟩
    obtain ⟨t, u, ht, hu⟩ := exists_of_utf8_eq_append h hs
    exact ⟨⟨String.ofList t, by simpa using ht⟩, ⟨String.ofList u, by simpa using hu⟩⟩
  · rintro ⟨hbefore, hafter⟩
    have hrest := isText_append (isText_ascii h) hafter
    exact isText_append hbefore hrest

end Logbook.Text
