/-
JSON numbers.  A number in its proper form is read as it was written when nothing follows that
would carry it on; the whole numbers of 64 bits come back exactly, whichever typed reader takes
them.
-/
import Logbook.Json.Shape
import Logbook.Proofs.Except
import Logbook.Proofs.Json.Strings

namespace Logbook.Json

/-- The digits of a part of a number: some, and each less than ten. -/
structure Digits (digits : List Nat) : Prop where
  some : digits ≠ []
  small : ∀ digit ∈ digits, digit < 10

/-- A number as JSON allows it to be written. -/
structure NumberText.Proper (t : NumberText) : Prop where
  whole : Digits t.whole
  leading : ∀ digit rest, t.whole ≠ 0 :: digit :: rest
  fraction : ∀ digits ∈ t.fraction, Digits digits
  exponent : ∀ e ∈ t.exponent, Digits e.digits

/-- What follows a number does not carry it on. -/
def EndsNumber (rest : List Char) : Prop :=
  ∀ c ∈ rest.head?, c.isDigit = false ∧ c ≠ '.' ∧ c ≠ 'e' ∧ c ≠ 'E'

/-- What follows digits does not carry them on. -/
def EndsDigits (rest : List Char) : Prop :=
  ∀ c ∈ rest.head?, c.isDigit = false

theorem EndsNumber.endsDigits {rest : List Char} (h : EndsNumber rest) : EndsDigits rest :=
  fun c hc => (h c hc).1

theorem endsNumber_cons {c : Char} (h : c.isDigit = false ∧ c ≠ '.' ∧ c ≠ 'e' ∧ c ≠ 'E')
    (rest : List Char) : EndsNumber (c :: rest) := by
  intro first hfirst
  obtain rfl := Option.some.inj hfirst
  exact h

theorem endsDigits_cons {c : Char} (h : c.isDigit = false) (rest : List Char) :
    EndsDigits (c :: rest) := by
  intro first hfirst
  obtain rfl := Option.some.inj hfirst
  exact h

theorem digitChar_facts (digit : Nat) (h : digit < 10) :
    digit.digitChar.isDigit = true ∧ digit.digitChar.toNat - '0'.toNat = digit ∧
      digit.digitChar ≠ '-' ∧ digit.digitChar ≠ '+' := by
  decide +revert

theorem spanDigits_digits {digits : List Nat} (h : ∀ digit ∈ digits, digit < 10)
    {rest : List Char} (hrest : EndsDigits rest) :
    spanDigits (digits.map Nat.digitChar ++ rest) = (digits, rest) := by
  induction digits with
  | nil =>
      cases rest with
      | nil => rfl
      | cons c rest => simp [spanDigits, hrest c rfl]
  | cons digit digits ih =>
      obtain ⟨hdigit, hvalue, -, -⟩ := digitChar_facts digit (h digit List.mem_cons_self)
      have htail := ih fun d hd => h d (List.mem_cons_of_mem digit hd)
      simp only [List.map_cons, List.cons_append, spanDigits, hdigit, if_true, htail, hvalue]

theorem spanWhole_digits {digits : List Nat} (h : Digits digits)
    (hleading : ∀ digit rest, digits ≠ 0 :: digit :: rest) {rest : List Char}
    (hrest : EndsDigits rest) :
    spanWhole (digits.map Nat.digitChar ++ rest) = .ok (digits, rest) := by
  rw [spanWhole, spanDigits_digits h.small hrest]
  split
  case h_1 heq => exact absurd (congrArg Prod.fst heq) h.some
  case h_2 heq => exact absurd (congrArg Prod.fst heq) (hleading _ _)
  case h_3 heq =>
    obtain ⟨rfl, rfl⟩ := Prod.mk.inj heq
    rfl

theorem spanFraction_digits {digits : List Nat} (h : Digits digits) {rest : List Char}
    (hrest : EndsDigits rest) :
    spanFraction ('.' :: digits.map Nat.digitChar ++ rest) = .ok (some digits, rest) := by
  rw [List.cons_append, spanFraction, spanDigits_digits h.small hrest]
  split
  case h_1 heq => exact absurd (congrArg Prod.fst heq) h.some
  case h_2 heq =>
    obtain ⟨rfl, rfl⟩ := Prod.mk.inj heq
    rfl

theorem spanFraction_none {rest : List Char} (h : ∀ c ∈ rest.head?, c ≠ '.') :
    spanFraction rest = .ok (none, rest) := by
  unfold spanFraction
  split
  · exact absurd rfl (h _ rfl)
  · rfl

def Exponent.chars (e : Exponent) : List Char :=
  'e' :: (if e.negative then ['-'] else []) ++ e.digits.map Nat.digitChar

/-- The sign of an exponent as it is written.  A plus may be left out. -/
inductive SignText : Bool → List Char → Prop where
  | bare : SignText false []
  | plus : SignText false ['+']
  | minus : SignText true ['-']

/-- An exponent as it is written, if there is one.  Its letter may be a capital. -/
inductive ExponentText : Option Exponent → List Char → Prop where
  | none : ExponentText none []
  | some {letter : Char} (hletter : letter = 'e' ∨ letter = 'E') {negative : Bool}
      {sign : List Char} (hsign : SignText negative sign) (digits : List Nat) :
      ExponentText (some ⟨negative, digits⟩) (letter :: (sign ++ digits.map Nat.digitChar))

theorem exponentText_chars (exponent : Option Exponent) :
    ExponentText exponent ((exponent.map Exponent.chars).getD []) := by
  rcases exponent with _ | ⟨negative, digits⟩
  · exact .none
  · cases negative with
    | false => exact .some (Or.inl rfl) .bare digits
    | true => exact .some (Or.inl rfl) .minus digits

/-- The exponent of a number reads back in front of what does not carry it on. -/
theorem ExponentText.spanExponent {exponent : Option Exponent} {text : List Char}
    (htext : ExponentText exponent text) (h : ∀ e ∈ exponent, Digits e.digits)
    {rest : List Char} (hrest : EndsNumber rest) :
    spanExponent (text ++ rest) = .ok (exponent, rest) := by
  rcases htext with _ | ⟨hletter, hsign, digits⟩
  · rcases rest with _ | ⟨c, rest⟩
    · rfl
    · obtain ⟨-, -, hsmall, hcapital⟩ := hrest c rfl
      simp [Json.spanExponent, hsmall, hcapital]
  · have hdigits := h _ rfl
    have hspan := spanDigits_digits hdigits.small hrest.endsDigits
    rcases digits with _ | ⟨digit, digits⟩
    · exact absurd rfl hdigits.some
    · obtain ⟨-, -, hminus, hplus⟩ :=
        digitChar_facts digit (hdigits.small digit List.mem_cons_self)
      rw [List.map_cons, List.cons_append] at hspan
      cases hsign <;> simp [Json.spanExponent, hletter, hminus, hplus, hspan]

/-- An exponent does not carry on what stands in front of it, nor does what follows a number. -/
theorem ExponentText.ends {exponent : Option Exponent} {text : List Char}
    (htext : ExponentText exponent text) {rest : List Char} (hrest : EndsNumber rest) :
    ∀ c ∈ (text ++ rest).head?, c.isDigit = false ∧ c ≠ '.' := by
  intro c hc
  rcases htext with _ | ⟨hletter, hsign, digits⟩
  · exact ⟨(hrest c hc).1, (hrest c hc).2.1⟩
  · obtain rfl := Option.some.inj hc
    rcases hletter with rfl | rfl <;> decide

/-- A number with something in the place of its exponent. -/
def NumberText.withTail (t : NumberText) (tail : List Char) : List Char :=
  (if t.negative then ['-'] else []) ++ (t.whole.map Nat.digitChar ++
    ((t.fraction.map fun digits => '.' :: digits.map Nat.digitChar).getD [] ++ tail))

/-- A number as it is written. -/
inductive NumberText.Spelled (t : NumberText) : List Char → Prop where
  | withTail (proper : t.Proper) {tail : List Char} (htail : ExponentText t.exponent tail) :
      Spelled t (t.withTail tail)

theorem NumberText.chars_eq (t : NumberText) :
    t.chars = t.withTail ((t.exponent.map Exponent.chars).getD []) := by
  cases hfraction : t.fraction <;> cases hexponent : t.exponent <;>
    simp [NumberText.chars, withTail, Exponent.chars, hfraction, hexponent]

theorem NumberText.Proper.spelled {t : NumberText} (h : t.Proper) : t.Spelled t.chars := by
  rw [NumberText.chars_eq]
  exact .withTail h (exponentText_chars t.exponent)

/-- A fraction reads back in front of what does not carry it on. -/
theorem spanFraction_spelled {fraction : Option (List Nat)}
    (h : ∀ digits ∈ fraction, Digits digits) {rest : List Char}
    (hrest : ∀ c ∈ rest.head?, c.isDigit = false ∧ c ≠ '.') :
    spanFraction ((fraction.map fun digits => '.' :: digits.map Nat.digitChar).getD [] ++ rest) =
      .ok (fraction, rest) := by
  rcases fraction with _ | digits
  · exact spanFraction_none fun c hc => (hrest c hc).2
  · exact spanFraction_digits (h digits rfl) fun c hc => (hrest c hc).1

theorem endsDigits_fraction (fraction : Option (List Nat)) {rest : List Char}
    (hrest : ∀ c ∈ rest.head?, c.isDigit = false ∧ c ≠ '.') :
    EndsDigits ((fraction.map fun digits => '.' :: digits.map Nat.digitChar).getD [] ++ rest) := by
  rcases fraction with _ | digits
  · exact fun c hc => (hrest c hc).1
  · exact endsDigits_cons (by decide) _

/-- A number reads as it was written. -/
theorem NumberText.Spelled.spanNumber {t : NumberText} {text : List Char} (h : t.Spelled text)
    {rest : List Char} (hrest : EndsNumber rest) :
    spanNumber (text ++ rest) = .ok (t, rest) := by
  obtain ⟨negative, whole, fraction, exponent⟩ := t
  obtain ⟨hproper, htail⟩ := h
  have hends := htail.ends hrest
  have hwhole := spanWhole_digits hproper.whole hproper.leading (endsDigits_fraction fraction hends)
  have hfraction := spanFraction_spelled hproper.fraction hends
  have hexponent := htail.spanExponent hproper.exponent hrest
  simp only at hwhole hfraction hexponent
  rw [NumberText.withTail]
  rcases whole with _ | ⟨digit, digits⟩
  · exact absurd rfl hproper.whole.some
  · obtain ⟨-, -, hminus, -⟩ :=
      digitChar_facts digit (hproper.whole.small digit List.mem_cons_self)
    rw [List.map_cons, List.cons_append] at hwhole
    cases negative with
    | true =>
        simp [Json.spanNumber, hwhole, hfraction, hexponent, bind, Except.bind, pure, Except.pure]
    | false =>
        simp [Json.spanNumber, hminus, hwhole, hfraction, hexponent, bind, Except.bind, pure,
          Except.pure]

/-- A number starts with a sign or a digit. -/
theorem NumberText.Spelled.eq_cons {t : NumberText} {text : List Char} (h : t.Spelled text) :
    ∃ c rest, text = c :: rest ∧ (c = '-' ∨ ∃ digit < 10, c = digit.digitChar) := by
  obtain ⟨negative, whole, fraction, exponent⟩ := t
  obtain ⟨hproper, -⟩ := h
  rw [NumberText.withTail]
  cases negative with
  | true => exact ⟨'-', _, rfl, Or.inl rfl⟩
  | false =>
      rcases whole with _ | ⟨digit, digits⟩
      · exact absurd rfl hproper.whole.some
      · have hdigit := hproper.whole.small digit List.mem_cons_self
        exact ⟨digit.digitChar, _, rfl, Or.inr ⟨digit, hdigit, rfl⟩⟩

theorem Digits.printed {digits : List Nat} (h : Digits digits) :
    Printed (digits.map Nat.digitChar) := by
  have hdigit : ∀ digit < 10, 0x20 ≤ digit.digitChar.toNat := by decide
  intro c hc
  obtain ⟨digit, hmem, rfl⟩ := List.mem_map.mp hc
  exact hdigit digit (h.small digit hmem)

/-- No number is written with a control character. -/
theorem NumberText.Proper.printed {t : NumberText} (h : t.Proper) : Printed t.chars := by
  rw [NumberText.chars_eq, NumberText.withTail, printed_append, printed_append, printed_append]
  refine ⟨?_, h.whole.printed, ?_, ?_⟩
  · cases t.negative <;> simp [Printed]
  · cases hfraction : t.fraction with
    | none => exact printed_nil
    | some digits =>
        exact printed_cons.mpr ⟨by decide, (h.fraction digits hfraction).printed⟩
  · cases hexponent : t.exponent with
    | none => exact printed_nil
    | some e =>
        have hdigits := (h.exponent e hexponent).printed
        cases hnegative : e.negative <;>
          simpa [Exponent.chars, hnegative, printed_cons] using hdigits

/-- A whole number of digits gathered one by one. -/
theorem le_foldl_digits (digits : List Nat) (word : Nat) :
    word ≤ digits.foldl (fun n digit => n * 10 + digit) word := by
  induction digits generalizing word with
  | nil => exact Nat.le_refl _
  | cons digit digits ih =>
      have h := ih (word * 10 + digit)
      rw [List.foldl_cons]
      omega

theorem foldl_whole (digits : List Nat) (word : Nat) (exponent : Int)
    (h : digits.foldl (fun n digit => n * 10 + digit) word ≤ Gathered.limit) :
    digits.foldl Gathered.whole ⟨word, exponent, false⟩ =
      ⟨digits.foldl (fun n digit => n * 10 + digit) word, exponent, false⟩ := by
  induction digits generalizing word with
  | nil => rfl
  | cons digit digits ih =>
      have hstep := le_foldl_digits digits (word * 10 + digit)
      rw [List.foldl_cons] at h
      have hfits : ¬Gathered.limit < word * 10 + digit := by omega
      simp only [List.foldl_cons, Gathered.whole, Bool.false_or, decide_eq_true_eq, if_neg hfits]
      exact ih _ h

theorem full_foldl_whole (digits : List Nat) {g : Gathered} (h : g.full = true) :
    (digits.foldl Gathered.whole g).full = true := by
  induction digits generalizing g with
  | nil => exact h
  | cons digit digits ih => exact ih (by simp [Gathered.whole, h])

/-- Where no digit was dropped, all were gathered. -/
theorem word_foldl_whole (digits : List Nat) {g : Gathered}
    (h : (digits.foldl Gathered.whole g).full = false) :
    (digits.foldl Gathered.whole g).word =
      digits.foldl (fun n digit => n * 10 + digit) g.word := by
  induction digits generalizing g with
  | nil => rfl
  | cons digit digits ih =>
      rw [List.foldl_cons] at h ⊢
      rw [ih h, List.foldl_cons]
      by_cases hfull : (g.full || decide (Gathered.limit < g.word * 10 + digit)) = true
      · have hdropped : (g.whole digit).full = true := by rw [Gathered.whole, if_pos hfull]
        simp [full_foldl_whole digits hdropped] at h
      · rw [Gathered.whole, if_neg hfull]

def decimals (n : Nat) : List Nat :=
  (Nat.toDigits 10 n).map fun c => c.toNat - '0'.toNat

theorem decimals_of_lt {n : Nat} (h : n < 10) : decimals n = [n] := by
  rw [decimals, Nat.toDigits_of_lt_base h, List.map_singleton, (digitChar_facts n h).2.1]

theorem decimals_of_le {n : Nat} (h : 10 ≤ n) : decimals n = decimals (n / 10) ++ [n % 10] := by
  have hdigit : n % 10 < 10 := Nat.mod_lt n (by decide)
  rw [decimals, Nat.toDigits_of_base_le (by decide) h, List.map_append, List.map_singleton,
    (digitChar_facts _ hdigit).2.1]
  rfl

theorem foldl_decimals (n : Nat) :
    (decimals n).foldl (fun n digit => n * 10 + digit) 0 = n := by
  induction n using Nat.strongRecOn with
  | ind n ih =>
      by_cases h : n < 10
      · simp [decimals_of_lt h]
      · rw [decimals_of_le (by omega), List.foldl_append, ih (n / 10) (by omega)]
        simp only [List.foldl_cons, List.foldl_nil]
        omega

/-- Only zero starts with a zero. -/
theorem decimals_eq_cons (n : Nat) :
    ∃ digit digits, decimals n = digit :: digits ∧ (digit = 0 → n = 0) := by
  induction n using Nat.strongRecOn with
  | ind n ih =>
      by_cases h : n < 10
      · exact ⟨n, [], decimals_of_lt h, id⟩
      · obtain ⟨digit, digits, heq, hzero⟩ := ih (n / 10) (by omega)
        rw [decimals_of_le (by omega), heq]
        refine ⟨digit, digits ++ [n % 10], rfl, ?_⟩
        intro hdigit
        have := hzero hdigit
        omega

theorem digits_decimals (n : Nat) : Digits (decimals n) := by
  induction n using Nat.strongRecOn with
  | ind n ih =>
      by_cases h : n < 10
      · rw [decimals_of_lt h]
        exact ⟨by simp, by simpa using h⟩
      · have hfirst := ih (n / 10) (by omega)
        rw [decimals_of_le (by omega)]
        refine ⟨by simp, ?_⟩
        intro digit hdigit
        rw [List.mem_append, List.mem_singleton] at hdigit
        rcases hdigit with hdigit | rfl
        · exact hfirst.small digit hdigit
        · exact Nat.mod_lt n (by decide)

theorem NumberText.proper_ofInt (i : Int) : (NumberText.ofInt i).Proper where
  whole := digits_decimals i.natAbs
  leading := by
    intro digit rest heq
    obtain ⟨first, digits, hcons, hzero⟩ := decimals_eq_cons i.natAbs
    change decimals i.natAbs = _ at heq
    rw [hcons, List.cons.injEq] at heq
    rw [hzero heq.1, decimals_of_lt (by decide)] at hcons
    obtain ⟨-, rfl⟩ := List.cons.inj hcons
    exact absurd heq.2 (by simp)
  fraction := by simp [NumberText.ofInt]
  exponent := by simp [NumberText.ofInt]

theorem NumberText.gatherWhole_ofInt {i : Int} (h : i.natAbs ≤ Gathered.limit) :
    (NumberText.ofInt i).gatherWhole = ⟨i.natAbs, 0, false⟩ := by
  have hvalue := foldl_decimals i.natAbs
  have hgather := foldl_whole (decimals i.natAbs) 0 0 (by rw [hvalue]; exact h)
  rw [hvalue] at hgather
  exact hgather

theorem NumberText.value_ofInt_of_nonneg {i : Int} (hsign : 0 ≤ i)
    (h : i.natAbs ≤ Gathered.limit) :
    (NumberText.ofInt i).value = .ok (.natural i.natAbs) := by
  have hnegative : (NumberText.ofInt i).negative = false := by simpa [NumberText.ofInt] using hsign
  have hfraction : (NumberText.ofInt i).fraction = none := rfl
  have hexponent : (NumberText.ofInt i).exponent = none := rfl
  simp [NumberText.value, hfraction, hexponent, hnegative, NumberText.gatherWhole_ofInt h]

theorem NumberText.value_ofInt_of_neg {i : Int} (hsign : i < 0)
    (h : i.natAbs ≤ 0x8000000000000000) :
    (NumberText.ofInt i).value = .ok (.negative i.natAbs) := by
  have hnegative : (NumberText.ofInt i).negative = true := by simpa [NumberText.ofInt] using hsign
  have hfraction : (NumberText.ofInt i).fraction = none := rfl
  have hexponent : (NumberText.ofInt i).exponent = none := rfl
  have hlimit : i.natAbs ≤ Gathered.limit := by
    simp only [Gathered.limit]
    omega
  have hreal : ¬(i.natAbs = 0 ∨ 0x8000000000000000 < i.natAbs) := by omega
  simp only [NumberText.value, hfraction, hexponent, NumberText.gatherWhole_ofInt hlimit,
    hnegative, if_neg hreal]
  rfl

/-- A whole number that is read as a natural number is that number. -/
theorem NumberText.eq_of_value_ofInt {i : Int} {k : Nat}
    (h : (NumberText.ofInt i).value = .ok (.natural k)) : i = k := by
  have hfraction : (NumberText.ofInt i).fraction = none := rfl
  have hexponent : (NumberText.ofInt i).exponent = none := rfl
  have hgather : (NumberText.ofInt i).gatherWhole =
      (decimals i.natAbs).foldl Gathered.whole {} := rfl
  have hreal : ∀ {reading : Except Error Binary}, reading.map Number.real ≠ .ok (.natural k) := by
    intro reading hread
    obtain ⟨x, -, hx⟩ := exists_of_map_eq_ok hread
    cases hx
  simp only [NumberText.value, hfraction, hexponent, hgather] at h
  split at h
  case isTrue => exact absurd h hreal
  case isFalse hfull =>
    split at h
    case isTrue hsign =>
      have hword := word_foldl_whole (decimals i.natAbs) (by simpa using hfull)
      rw [foldl_decimals] at hword
      obtain rfl : i.natAbs = k := by
        rw [← hword]
        simpa using h
      have hpositive : 0 ≤ i := by simpa [NumberText.ofInt] using hsign
      omega
    case isFalse =>
      split at h
      case isTrue => exact absurd h hreal
      case isFalse => simp at h

/-- A whole number of eight bytes comes back. -/
theorem Reader.long_ofInt (n : Int64) : Reader.long (.number (.ofInt n.toInt)) = .ok n := by
  have hlow := n.le_toInt
  have hhigh := n.toInt_lt
  by_cases hsign : 0 ≤ n.toInt
  · have hlimit : n.toInt.natAbs ≤ Gathered.limit := by
      simp only [Gathered.limit]
      omega
    have hfits : n.toInt.natAbs < 0x8000000000000000 := by omega
    have hback : Int64.ofNat n.toInt.natAbs = n := by
      apply Int64.toInt.inj
      rw [Int64.toInt_ofNat_of_lt hfits, Int.natAbs_of_nonneg hsign]
    have hvalue := NumberText.value_ofInt_of_nonneg hsign hlimit
    simp only [Reader.long, hvalue, bind, Except.bind, if_pos hfits, hback]
  · have hback : Int64.ofInt (-n.toInt.natAbs) = n := by
      rw [Int.ofNat_natAbs_of_nonpos (by omega), Int.neg_neg, Int64.ofInt_toInt]
    have hvalue := NumberText.value_ofInt_of_neg (i := n.toInt) (by omega) (by omega)
    simp only [Reader.long, hvalue, bind, Except.bind, hback]

theorem Reader.unsigned_ofInt {n limit : Nat} (expected : String) (h : n ≤ limit)
    (hlimit : limit ≤ Gathered.limit) :
    Reader.unsigned limit expected (.number (.ofInt n)) = .ok n := by
  have hfits : (n : Int).natAbs ≤ Gathered.limit := by omega
  have hvalue := NumberText.value_ofInt_of_nonneg (Int.natCast_nonneg n) hfits
  rw [Int.natAbs_natCast] at hvalue
  simp [Reader.unsigned, hvalue, bind, Except.bind, h]

/-- A natural number of four bytes comes back. -/
theorem Reader.word_ofInt (n : UInt32) :
    Reader.word (.number (.ofInt n.toNat)) = .ok n := by
  have h := n.toNat_lt
  rw [Reader.word, Reader.unsigned_ofInt "u32" (by omega) (by decide)]
  simp [Except.map]

theorem Reader.eq_of_unsigned_ofInt {limit k : Nat} {expected : String} {i : Int}
    (h : Reader.unsigned limit expected (.number (.ofInt i)) = .ok k) : i = k := by
  obtain ⟨number, hvalue, hk⟩ := exists_of_bind_eq_ok h
  rcases number with n | n | x
  · simp only at hk
    split at hk
    · obtain rfl := Except.ok.inj hk
      exact NumberText.eq_of_value_ofInt hvalue
    · simp at hk
  · simp at hk
  · simp at hk

/-- A level comes back from its ordinal. -/
theorem Reader.levelOrdinal_ofInt (level : Level) :
    Reader.levelOrdinal (.number (.ofInt level.ordinal)) = .ok level := by
  have h : level.ordinal ≤ 255 := by cases level <;> decide
  rw [Reader.levelOrdinal, Reader.byte, Reader.unsigned_ofInt "u8" h (by decide)]
  simp [bind, Except.bind, Level.ofOrdinal?_ordinal]

/-- From no other whole number there comes a level. -/
theorem Reader.levelOrdinal_ofInt_ne_ok {i : Int} (h : i < 0 ∨ 4 < i) (level : Level) :
    Reader.levelOrdinal (.number (.ofInt i)) ≠ .ok level := by
  intro hread
  obtain ⟨n, hbyte, hlevel⟩ := exists_of_bind_eq_ok hread
  have hn := Reader.eq_of_unsigned_ofInt hbyte
  split at hlevel
  case h_1 level' hordinal =>
    have hsmall : n ≤ 4 := by
      rw [← Level.ordinal_of_ofOrdinal? hordinal]
      cases level' <;> decide
    omega
  case h_2 => simp at hlevel

end Logbook.Json
