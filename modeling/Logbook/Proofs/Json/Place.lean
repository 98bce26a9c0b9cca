/-
Places.  How far a text is inside brackets and strings is a matter of one look at each of its
characters.  A text that is all tokens takes a place where its tokens do, and a character that can
stand somewhere does the same in more containers.
-/
import Logbook.Proofs.Except
import Logbook.Proofs.Json.RoundTrip
import Mathlib.Tactic.SplitIfs

namespace Logbook.Json

/-- Where a text stands with respect to its brackets.  A place in a container counts the
containers around it. -/
inductive Place where
  /-- Before the first bracket. -/
  | start
  /-- In a container. -/
  | inside (depth : Nat)
  /-- In a string in a container. -/
  | quoted (depth : Nat)
  /-- Behind a backslash in a string. -/
  | escaped (depth : Nat)
  /-- Behind the last bracket. -/
  | done
  /-- Behind something that can stand nowhere. -/
  | lost
  deriving DecidableEq

/-- The characters of numbers and words. -/
def isScalar (c : Char) : Bool :=
  c.isDigit || c ∈ ['+', '-', '.', 'E', 'a', 'e', 'f', 'l', 'n', 'r', 's', 't', 'u']

namespace Place

/-- The place behind the end of a container. -/
def close : Nat → Place
  | 0 => .done
  | depth + 1 => .inside depth

def step (place : Place) (c : Char) : Place :=
  match place with
  | .start => if isSpace c then .start else if c = '[' ∨ c = '\x7b' then .inside 0 else .lost
  | .inside depth =>
      if c = '"' then .quoted depth
      else if c = '[' ∨ c = '\x7b' then .inside (depth + 1)
      else if c = ']' ∨ c = '\x7d' then close depth
      else if isSpace c ∨ isScalar c ∨ c = ',' ∨ c = ':' then .inside depth
      else .lost
  | .quoted depth =>
      if c = '"' then .inside depth else if c = '\\' then .escaped depth else .quoted depth
  | .escaped depth => if (escaped? c).isSome ∨ c = 'u' then .quoted depth else .lost
  | .done => if isSpace c then .done else .lost
  | .lost => .lost

def run (place : Place) (text : List Char) : Place :=
  text.foldl step place

theorem run_append (place : Place) (first second : List Char) :
    place.run (first ++ second) = (place.run first).run second :=
  List.foldl_append

theorem run_cons (place : Place) (c : Char) (text : List Char) :
    place.run (c :: text) = (place.step c).run text := rfl

theorem run_lost (text : List Char) : lost.run text = lost := by
  induction text with
  | nil => rfl
  | cons c text ih => exact ih

/-- The place in a container that begins here. -/
def opened : Place → Place
  | .start => .inside 0
  | .inside depth => .inside (depth + 1)
  | _ => .lost

/-- The place behind a container that ends here. -/
def closed : Place → Place
  | .inside depth => close depth
  | _ => .lost

/-- The place behind something that is no bracket. -/
def passed : Place → Place
  | .inside depth => .inside depth
  | _ => .lost

def take (place : Place) (token : Token) : Place :=
  match token with
  | .openArray => place.opened
  | .openObject => place.opened
  | .closeArray => place.closed
  | .closeObject => place.closed
  | _ => place.passed

/-- A place between tokens. -/
def Settled : Place → Prop
  | .quoted _ => False
  | .escaped _ => False
  | _ => True

theorem settled_close (depth : Nat) : (close depth).Settled := by
  cases depth <;> trivial

theorem settled_take (place : Place) (token : Token) : (place.take token).Settled := by
  cases token with
  | openArray => cases place <;> trivial
  | openObject => cases place <;> trivial
  | closeArray => cases place <;> first | trivial | exact settled_close _
  | closeObject => cases place <;> first | trivial | exact settled_close _
  | _ => cases place <;> trivial

theorem step_space {place : Place} (h : place.Settled) {c : Char} (hspace : isSpace c = true) :
    place.step c = place := by
  have hspaces : c = ' ' ∨ c = '\t' ∨ c = '\n' ∨ c = '\r' := by
    simpa [isSpace, or_assoc] using hspace
  cases place with
  | quoted depth => exact absurd h id
  | escaped depth => exact absurd h id
  | inside depth => rcases hspaces with rfl | rfl | rfl | rfl <;> rfl
  | _ => simp [step, hspace]

end Place

/-- The rest of a text behind characters of numbers and words. -/
def Past (text rest : List Char) : Prop :=
  ∃ chars, text = chars ++ rest ∧ ∀ c ∈ chars, isScalar c = true

theorem Past.refl (text : List Char) : Past text text :=
  ⟨[], rfl, by simp⟩

theorem Past.trans {first second third : List Char} (h : Past first second)
    (h' : Past second third) : Past first third := by
  obtain ⟨chars, rfl, hchars⟩ := h
  obtain ⟨chars', rfl, hchars'⟩ := h'
  refine ⟨chars ++ chars', by rw [List.append_assoc], ?_⟩
  intro c hc
  rcases List.mem_append.mp hc with hc | hc
  · exact hchars c hc
  · exact hchars' c hc

theorem Past.cons {c : Char} (h : isScalar c = true) (rest : List Char) : Past (c :: rest) rest :=
  ⟨[c], rfl, by simpa using h⟩

theorem past_spanDigits (text : List Char) : Past text (spanDigits text).2 := by
  induction text with
  | nil => exact Past.refl _
  | cons c text ih =>
      unfold spanDigits
      split
      case isTrue h => exact (Past.cons (by simp [isScalar, h]) text).trans ih
      case isFalse => exact Past.refl _

theorem past_spanWhole {text rest : List Char} {whole : List Nat}
    (h : spanWhole text = .ok (whole, rest)) : Past text rest := by
  have hdigits := past_spanDigits text
  unfold spanWhole at h
  split at h
  · simp at h
  · simp at h
  · rename_i heq
    obtain ⟨-, rfl⟩ := by simpa using h
    rwa [heq] at hdigits

theorem past_spanFraction {text rest : List Char} {fraction : Option (List Nat)}
    (h : spanFraction text = .ok (fraction, rest)) : Past text rest := by
  unfold spanFraction at h
  split at h
  · rename_i tail
    have hdigits := past_spanDigits tail
    split at h
    · simp at h
    · rename_i heq
      obtain ⟨-, rfl⟩ := by simpa using h
      rw [heq] at hdigits
      exact (Past.cons (by decide) tail).trans hdigits
  · obtain ⟨-, rfl⟩ := by simpa using h
    exact Past.refl _

theorem past_spanExponent {text rest : List Char} {exponent : Option Exponent}
    (h : spanExponent text = .ok (exponent, rest)) : Past text rest := by
  unfold spanExponent at h
  split at h
  case h_2 =>
    obtain ⟨-, rfl⟩ := by simpa using h
    exact Past.refl _
  case h_1 c tail =>
    split at h
    case isFalse =>
      obtain ⟨-, rfl⟩ := by simpa using h
      exact Past.refl _
    case isTrue hletter =>
      have hc : isScalar c = true := by rcases hletter with rfl | rfl <;> decide
      split at h
      rename_i negative tail' hsign
      have htail : Past tail tail' := by
        split at hsign
        all_goals
          obtain ⟨-, rfl⟩ := Prod.mk.inj hsign
          first
            | exact Past.cons (by decide) _
            | exact Past.refl _
      have hdigits := past_spanDigits tail'
      split at h
      · simp at h
      · rename_i heq
        obtain ⟨-, rfl⟩ := by simpa using h
        rw [heq] at hdigits
        exact (Past.cons hc tail).trans (htail.trans hdigits)

theorem past_spanNumber {text rest : List Char} {n : NumberText}
    (h : spanNumber text = .ok (n, rest)) : Past text rest := by
  unfold spanNumber at h
  split at h
  rename_i negative tail hsign
  have htail : Past text tail := by
    split at hsign
    all_goals
      obtain ⟨-, rfl⟩ := Prod.mk.inj hsign
      first
        | exact Past.cons (by decide) _
        | exact Past.refl _
  obtain ⟨⟨whole, rest₁⟩, hwhole, h⟩ := exists_of_bind_eq_ok h
  obtain ⟨⟨fraction, rest₂⟩, hfraction, h⟩ := exists_of_bind_eq_ok h
  obtain ⟨⟨exponent, rest₃⟩, hexponent, h⟩ := exists_of_bind_eq_ok h
  obtain ⟨-, rfl⟩ := Prod.mk.inj (Except.ok.inj h)
  have hdigits := (past_spanWhole hwhole).trans (past_spanFraction hfraction)
  exact htail.trans (hdigits.trans (past_spanExponent hexponent))

namespace Place

/-- Characters of numbers and words move nothing in a container. -/
theorem run_scalars (depth : Nat) {chars : List Char} (h : ∀ c ∈ chars, isScalar c = true) :
    (inside depth).run chars = inside depth := by
  induction chars with
  | nil => rfl
  | cons c chars ih =>
      have hc := h c List.mem_cons_self
      have hstep : (inside depth).step c = inside depth := by
        have hquote : c ≠ '"' := by rintro rfl; exact absurd hc (by decide)
        have hopen : ¬(c = '[' ∨ c = '\x7b') := by
          rintro (rfl | rfl) <;> exact absurd hc (by decide)
        have hclose : ¬(c = ']' ∨ c = '\x7d') := by
          rintro (rfl | rfl) <;> exact absurd hc (by decide)
        simp [step, hquote, hopen, hclose, hc]
      rw [run_cons, hstep]
      exact ih fun d hd => h d (List.mem_cons_of_mem c hd)

theorem step_quoted_hexDigit (depth : Nat) {c : Char} (h : Text.hexDigit? c ≠ none) :
    (quoted depth).step c = quoted depth := by
  have hquote : c ≠ '"' := by rintro rfl; exact h (by decide)
  have hslash : c ≠ '\\' := by rintro rfl; exact h (by decide)
  simp [step, hquote, hslash]

theorem hexDigits_of_hexWord {a b c d : Char} (h : (hexWord? a b c d).isSome = true) :
    Text.hexDigit? a ≠ none ∧ Text.hexDigit? b ≠ none ∧ Text.hexDigit? c ≠ none ∧
      Text.hexDigit? d ≠ none := by
  refine ⟨?_, ?_, ?_, ?_⟩
  all_goals
    intro hnone
    simp [hexWord?, hnone] at h

/-- A string takes the text back to where it began. -/
theorem run_skipString {text rest : List Char} (h : skipString text = .ok rest) :
    ∃ chars, text = chars ++ rest ∧ ∀ depth, (quoted depth).run chars = inside depth := by
  fun_induction skipString text with
  -- A backslash with four hexadecimal digits.
  | case3 a b c d tail hhex ih =>
      obtain ⟨chars, rfl, hrun⟩ := ih h
      obtain ⟨ha, hb, hc, hd⟩ := hexDigits_of_hexWord hhex
      refine ⟨'\\' :: 'u' :: a :: b :: c :: d :: chars, rfl, ?_⟩
      intro depth
      have hescape : ((quoted depth).step '\\').step 'u' = quoted depth := rfl
      rw [run_cons, run_cons, hescape, run_cons, step_quoted_hexDigit depth ha, run_cons,
        step_quoted_hexDigit depth hb, run_cons, step_quoted_hexDigit depth hc, run_cons,
        step_quoted_hexDigit depth hd, hrun]
  -- A backslash with a letter.
  | case6 c tail _ _ hescape ih =>
      obtain ⟨chars, rfl, hrun⟩ := ih h
      refine ⟨'\\' :: c :: chars, rfl, ?_⟩
      intro depth
      have hstep : ((quoted depth).step '\\').step c = quoted depth := by
        change (escaped depth).step c = quoted depth
        simp [step, hescape]
      rw [run_cons, run_cons, hstep, hrun]
  | case8 tail =>
      obtain rfl := Except.ok.inj h
      exact ⟨['"'], rfl, fun _ => rfl⟩
  -- Any other character; a backslash at the end was refused before.
  | case10 c tail hend _ _ hmore hquote _ ih =>
      obtain ⟨chars, rfl, hrun⟩ := ih h
      refine ⟨c :: chars, rfl, ?_⟩
      intro depth
      have hslash : c ≠ '\\' := by
        intro hslash
        cases htail : chars ++ rest with
        | nil => exact hend hslash htail
        | cons d tail => exact hmore d tail hslash htail
      rw [run_cons, step, if_neg hquote, if_neg hslash, hrun]
  | _ => simp at h

theorem past_stripWord {word text rest : List Char} (hword : ∀ c ∈ word, isScalar c = true)
    (h : stripWord word text = .ok rest) : Past text rest := by
  fun_induction stripWord word text with
  | case1 text =>
      obtain rfl := Except.ok.inj h
      exact Past.refl _
  | case3 word c text ih =>
      have hrest := ih (fun d hd => hword d (List.mem_cons_of_mem c hd)) h
      exact (Past.cons (hword c List.mem_cons_self) text).trans hrest
  | _ => simp at h

/-- What stays in a container, and starts like no bracket and no blank, can stand nowhere else. -/
theorem run_passed {c : Char} {chars : List Char} (hspace : isSpace c = false)
    (hopen : ¬(c = '[' ∨ c = '\x7b'))
    (hinside : ∀ depth, (inside depth).run (c :: chars) = inside depth) {place : Place}
    (hplace : place.Settled) : place.run (c :: chars) = place.passed := by
  cases place with
  | quoted depth => exact absurd hplace id
  | escaped depth => exact absurd hplace id
  | inside depth => exact hinside depth
  | start =>
      rw [run_cons, step, hspace, if_neg hopen]
      exact run_lost chars
  | done =>
      rw [run_cons, step, hspace]
      exact run_lost chars
  | lost => exact run_lost (c :: chars)

/-- Characters of numbers and words are passed. -/
theorem run_past {c : Char} {text rest : List Char} (hc : isScalar c = true)
    (h : Past text rest) : ∃ chars, c :: text = chars ++ rest ∧
      ∀ place : Place, place.Settled → place.run chars = place.passed := by
  obtain ⟨chars, rfl, hchars⟩ := h
  have hspace : isSpace c = false := by
    simp only [isSpace, Bool.or_eq_false_iff, beq_eq_false_iff_ne]
    refine ⟨⟨⟨?_, ?_⟩, ?_⟩, ?_⟩ <;> rintro rfl <;> exact absurd hc (by decide)
  have hopen : ¬(c = '[' ∨ c = '\x7b') := by
    rintro (rfl | rfl) <;> exact absurd hc (by decide)
  refine ⟨c :: chars, rfl, fun place hplace => run_passed hspace hopen ?_ hplace⟩
  intro depth
  apply run_scalars
  intro d hd
  rcases List.mem_cons.mp hd with rfl | hd
  · exact hc
  · exact hchars d hd

theorem past_of_map {word text rest : List Char} {token token' : Token}
    (hword : word.all isScalar = true)
    (h : (stripWord word text).map (fun tail => (token, tail)) = .ok (token', rest)) :
    token = token' ∧ Past text rest := by
  obtain ⟨tail, hstrip, htail⟩ := exists_of_map_eq_ok h
  obtain ⟨rfl, rfl⟩ := Prod.mk.inj htail
  exact ⟨rfl, past_stripWord (List.all_eq_true.mp hword) hstrip⟩

/-- The characters of a token take a place between tokens where the token does. -/
theorem run_scan {c : Char} {rest rest' : List Char} {token : Token} (hspace : isSpace c = false)
    (h : scan c rest = .ok (token, rest')) :
    ∃ chars, c :: rest = chars ++ rest' ∧
      ∀ place : Place, place.Settled → place.run chars = place.take token := by
  unfold scan at h
  split at h
  case h_7 =>
    unfold spanString at h
    split at h
    case h_2 => split at h <;> simp at h
    case h_1 hskip =>
      obtain ⟨rfl, rfl⟩ := by simpa using h
      obtain ⟨chars, rfl, hrun⟩ := run_skipString hskip
      refine ⟨'"' :: chars, rfl, fun place hplace => run_passed hspace (by decide) ?_ hplace⟩
      intro depth
      exact hrun depth
  case h_8 | h_9 | h_10 =>
    obtain ⟨rfl, hpast⟩ := past_of_map (by decide) h
    exact run_past (by decide) hpast
  case h_11 =>
    split at h
    case isFalse => simp at h
    case isTrue hfirst =>
      obtain ⟨⟨n, tail⟩, hnumber, htail⟩ := exists_of_map_eq_ok h
      obtain ⟨rfl, rfl⟩ := Prod.mk.inj htail
      have hlength := length_spanNumber hnumber
      obtain ⟨chars, htext, hchars⟩ := past_spanNumber hnumber
      cases chars with
      | nil =>
          rw [htext] at hlength
          exact absurd hlength (Nat.lt_irrefl _)
      | cons d chars =>
          obtain ⟨rfl, rfl⟩ := List.cons.inj htext
          have hc := hchars c List.mem_cons_self
          exact run_past hc ⟨chars, rfl, fun d hd => hchars d (List.mem_cons_of_mem c hd)⟩
  all_goals
    obtain ⟨rfl, rfl⟩ := by simpa using h
    refine ⟨[_], rfl, ?_⟩
    intro place hplace
    cases place <;> first | rfl | exact absurd hplace id

theorem exists_scan_of_lex {c : Char} {rest : List Char} (hspace : isSpace c = false)
    (h : (lex (c :: rest)).stop = none) : ∃ token tail, scan c rest = .ok (token, tail) := by
  rw [lex, if_neg (by simp [hspace])] at h
  split at h
  case h_1 => simp at h
  case h_2 token tail hscan => exact ⟨token, tail, hscan⟩

/-- A text that is all tokens takes a place where its tokens do. -/
theorem run_of_lex (text : List Char) (h : (lex text).stop = none) {place : Place}
    (hplace : place.Settled) : place.run text = (lex text).list.foldl take place := by
  induction hlength : text.length using Nat.strongRecOn generalizing text place with
  | ind length ih =>
      cases text with
      | nil => simp [lex, run]
      | cons c rest =>
          by_cases hspace : isSpace c = true
          · rw [lex_space hspace] at h ⊢
            rw [run_cons, step_space hplace hspace]
            exact ih rest.length (by rw [← hlength]; simp) rest h hplace rfl
          · have hspace : isSpace c = false := Bool.eq_false_iff.mpr hspace
            obtain ⟨token, tail, hscan⟩ := exists_scan_of_lex hspace h
            have hshort := length_scan hscan
            obtain ⟨chars, htext, hrun⟩ := run_scan hspace hscan
            rw [lex_scan hspace hscan] at h ⊢
            rw [htext, run_append, hrun place hplace]
            rw [List.length_cons] at hlength
            exact ih tail.length (by omega) tail h (settled_take place token) rfl

/-- The same place with containers around it. -/
def within (depth : Nat) : Place → Place
  | .start => .inside depth
  | .inside d => .inside (depth + d + 1)
  | .quoted d => .quoted (depth + d + 1)
  | .escaped d => .escaped (depth + d + 1)
  | .done => .inside depth
  | .lost => .lost

theorem within_close (depth d : Nat) : (close d).within depth = close (depth + d + 1) := by
  cases d <;> rfl

/-- A character that can stand somewhere does the same in more containers. -/
theorem step_within (depth : Nat) {place : Place} {c : Char} (h : place.step c ≠ lost) :
    (place.within depth).step c = (place.step c).within depth := by
  cases place with
  | start =>
      by_cases hspace : isSpace c = true
      · have hstart : start.Settled := trivial
        have hinside : (inside depth).Settled := trivial
        rw [step_space hstart hspace]
        exact step_space hinside hspace
      · by_cases hopen : c = '[' ∨ c = '\x7b'
        · rcases hopen with rfl | rfl <;> rfl
        · simp [step, hspace, hopen] at h
  | inside d =>
      simp only [within, step]
      split
      · rfl
      split
      · rfl
      split
      · exact (within_close depth d).symm
      split <;> rfl
  | quoted d =>
      simp only [within, step]
      split
      · rfl
      split <;> rfl
  | escaped d =>
      simp only [within, step]
      split <;> rfl
  | done =>
      by_cases hspace : isSpace c = true
      · have hdone : done.Settled := trivial
        have hinside : (inside depth).Settled := trivial
        rw [step_space hdone hspace]
        exact step_space hinside hspace
      · simp [step, hspace] at h
  | lost => exact absurd rfl h

theorem run_within (depth : Nat) {text : List Char} {place : Place} (h : place.run text ≠ lost) :
    (place.within depth).run text = (place.run text).within depth := by
  induction text generalizing place with
  | nil => rfl
  | cons c text ih =>
      have hstep : place.step c ≠ lost := by
        intro hlost
        rw [run_cons, hlost] at h
        exact h (run_lost text)
      rw [run_cons, run_cons, step_within depth hstep]
      exact ih h

theorem run_ne_start {place : Place} (h : place ≠ start) (text : List Char) :
    place.run text ≠ start := by
  induction text generalizing place with
  | nil => exact h
  | cons c text ih =>
      apply ih
      cases place with
      | start => exact absurd rfl h
      | lost => exact h
      | inside d =>
          simp only [step]
          cases d <;> split_ifs <;> simp [close]
      | _ =>
          simp only [step]
          split_ifs <;> simp

end Place

end Logbook.Json
