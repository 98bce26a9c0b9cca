/-
Console lines in the order of time.  The time of day is shown with two digits for each of its parts
and the microseconds with six, so within a day the lines stand in the order of their first sixteen
characters just as their records stand in the order of their stamps, and it makes no difference
what comes behind: which node, which message, which colours.  Days before 1970 are no exception,
since the time of day counts from the midnight before and never backwards.  Main statement:
`Record.stamps_shown`.
-/
import Logbook.Proofs.Line
import Logbook.Proofs.Origins

namespace Logbook

namespace Text

/-- Texts with fronts of one length are compared by their fronts first. -/
theorem append_lt_append_iff {front front' rest rest' : List Char}
    (h : front.length = front'.length) :
    front ++ rest < front' ++ rest' ↔ front < front' ∨ front = front' ∧ rest < rest' := by
  induction front generalizing front' with
  | nil =>
      obtain rfl := List.length_eq_zero_iff.mp h.symm
      simp
  | cons c front ih =>
      cases front' with
      | nil => simp at h
      | cons c' front' =>
          have hlength : front.length = front'.length := by simpa using h
          simp only [List.cons_append, List.cons_lt_cons_iff, ih hlength, List.cons.injEq]
          rw [or_assoc, and_assoc, ← and_or_left]

/-- The number that a digit stands for. -/
def digitValue (c : Char) : Nat :=
  c.toNat - '0'.toNat

/-- Digits stand in the order of their numbers. -/
theorem digit_lt_iff {c c' : Char} (h : c.isDigit = true) (h' : c'.isDigit = true) :
    (c < c' ↔ digitValue c < digitValue c') ∧ (c = c' ↔ digitValue c = digitValue c') ∧
      digitValue c < 10 ∧ digitValue c' < 10 := by
  have hrange : ∀ c : Char, c.isDigit = true → 48 ≤ c.toNat ∧ c.toNat ≤ 57 := by
    intro c hc
    simpa [Char.isDigit, UInt32.le_iff_toNat_le] using hc
  have hc := hrange c h
  have hc' := hrange c' h'
  have hlt : c < c' ↔ c.toNat < c'.toNat := Iff.rfl
  have heq : c = c' ↔ c.toNat = c'.toNat := Char.toNat_inj.symm
  have hvalue : ∀ c : Char, digitValue c = c.toNat - 48 := fun _ => rfl
  rw [hlt, heq, hvalue, hvalue]
  omega

/-- Numbers of equally many digits stand in the order of their digits.  The induction is on the
digits from the front, which come behind others that have made a number each. -/
theorem ofDigitChars_lt_iff {digits digits' : List Char} (hlength : digits.length = digits'.length)
    (h : ∀ c ∈ digits, c.isDigit = true) (h' : ∀ c ∈ digits', c.isDigit = true) (n n' : Nat) :
    Nat.ofDigitChars 10 digits n < Nat.ofDigitChars 10 digits' n' ↔
      n < n' ∨ n = n' ∧ digits < digits' := by
  induction digits generalizing digits' n n' with
  | nil =>
      obtain rfl := List.length_eq_zero_iff.mp hlength.symm
      simp
  | cons c digits ih =>
      cases digits' with
      | nil => simp at hlength
      | cons c' digits' =>
          rw [List.forall_mem_cons] at h h'
          obtain ⟨hlt, heq, hten, hten'⟩ := digit_lt_iff h.1 h'.1
          have hmore : 10 * n + digitValue c < 10 * n' + digitValue c' ↔
              n < n' ∨ n = n' ∧ digitValue c < digitValue c' := by omega
          have hsame : 10 * n + digitValue c = 10 * n' + digitValue c' ↔
              n = n' ∧ digitValue c = digitValue c' := by omega
          have hrest := ih (by simpa using hlength) h.2 h'.2 (10 * n + digitValue c)
            (10 * n' + digitValue c')
          rw [hmore, hsame, ← hlt, ← heq] at hrest
          rw [List.cons_lt_cons_iff, and_or_left, ← and_assoc, ← or_assoc, ← hrest]
          rfl

/-- Numbers that fill the same columns with zeros in front stand in the order of their texts. -/
theorem zeroPadded_lt_iff {width n n' : Nat} (hwidth : 0 < width) (h : n < 10 ^ width)
    (h' : n' < 10 ^ width) :
    (zeroPadded width n).toList < (zeroPadded width n').toList ↔ n < n' := by
  have hlength : (zeroPadded width n).toList.length = (zeroPadded width n').toList.length := by
    rw [(length_zeroPadded_eq_iff hwidth n).mpr h, (length_zeroPadded_eq_iff hwidth n').mpr h']
  have hdigits := ofDigitChars_lt_iff hlength (fun c => isDigit_of_mem_zeroPadded)
    (fun c => isDigit_of_mem_zeroPadded) 0 0
  rw [ofDigitChars_zeroPadded, ofDigitChars_zeroPadded] at hdigits
  simpa using hdigits.symm

theorem toList_zeroPadded_inj {width n n' : Nat} :
    (zeroPadded width n).toList = (zeroPadded width n').toList ↔ n = n' :=
  String.toList_inj.trans (zeroPadded_injective width).eq_iff

/-- The two digits of a number below a hundred. -/
def twoDigits (n : Nat) : List Char :=
  [Nat.digitChar (n / 10), Nat.digitChar (n % 10)]

theorem zeroPadded_two {n : Nat} (h : n < 100) : (zeroPadded 2 n).toList = twoDigits n := by
  have hall : ∀ n < 100, (zeroPadded 2 n).toList = twoDigits n := by decide +kernel
  exact hall n h

end Text

open Text

/-- The parts of a clock, with two digits each. -/
theorem toList_clockText {second : Nat} (h : second < 86400) :
    (clockText second).toList = twoDigits (second / 3600) ++ ':' ::
      (twoDigits (second / 60 % 60) ++ ':' :: twoDigits (second % 60)) := by
  rw [← zeroPadded_two (by omega), ← zeroPadded_two (by omega), ← zeroPadded_two (by omega)]
  simp [clockText]

/-- Clocks within a day stand in the order of their texts. -/
theorem clockText_lt_iff {second second' : Nat} (h : second < 86400) (h' : second' < 86400) :
    (clockText second).toList < (clockText second').toList ↔ second < second' := by
  have hpair : ∀ n n', n < 100 → n' < 100 →
      (twoDigits n < twoDigits n' ↔ n < n') ∧ (twoDigits n = twoDigits n' ↔ n = n') := by
    intro n n' hn hn'
    rw [← zeroPadded_two hn, ← zeroPadded_two hn']
    exact ⟨zeroPadded_lt_iff (by decide) hn hn', toList_zeroPadded_inj⟩
  have hhour := hpair (second / 3600) (second' / 3600) (by omega) (by omega)
  have hminute := hpair (second / 60 % 60) (second' / 60 % 60) (by omega) (by omega)
  have hsecond := hpair (second % 60) (second' % 60) (by omega) (by omega)
  have hwidth : ∀ n n', (twoDigits n).length = (twoDigits n').length := fun _ _ => rfl
  rw [toList_clockText h, toList_clockText h', append_lt_append_iff (hwidth _ _),
    List.cons_lt_cons_self, append_lt_append_iff (hwidth _ _), List.cons_lt_cons_self, hhour.1,
    hhour.2, hminute.1, hminute.2, hsecond.1]
  omega

namespace Stamp

/-- A stamp comes before another one. -/
def Before (stamp stamp' : Stamp) : Prop :=
  stamp.le stamp' ∧ stamp ≠ stamp'

instance (stamp stamp' : Stamp) : Decidable (stamp.Before stamp') :=
  inferInstanceAs (Decidable (_ ∧ _))

theorem eq_iff (stamp stamp' : Stamp) :
    stamp = stamp' ↔ stamp.sec.toInt = stamp'.sec.toInt ∧ stamp.usec.toNat = stamp'.usec.toNat := by
  rw [Int64.toInt_inj, UInt32.toNat_inj]
  cases stamp
  cases stamp'
  simp

theorem before_iff (stamp stamp' : Stamp) :
    stamp.Before stamp' ↔ stamp.sec.toInt < stamp'.sec.toInt ∨
      stamp.sec.toInt = stamp'.sec.toInt ∧ stamp.usec.toNat < stamp'.usec.toNat := by
  have hle : stamp.le stamp' ↔ stamp.sec.toInt < stamp'.sec.toInt ∨
      stamp.sec.toInt = stamp'.sec.toInt ∧ stamp.usec.toNat ≤ stamp'.usec.toNat := by
    simp [le, Int64.lt_iff_toInt_lt, Int64.toInt_inj, UInt32.le_iff_toNat_le]
  rw [Before, hle, Ne, eq_iff]
  omega

/-- Two moments of the calendar that are on the same day of it. -/
structure SameDay (stamp stamp' : Stamp) : Prop where
  left : stamp.InCalendar
  right : stamp'.InCalendar
  day : stamp.sec.toInt / 86400 = stamp'.sec.toInt / 86400

theorem timeText_of_inCalendar {stamp : Stamp} (h : stamp.InCalendar) :
    stamp.timeText = clockText stamp.secondOfDay :=
  if_pos h

theorem coe_secondOfDay (stamp : Stamp) : (stamp.secondOfDay : Int) = stamp.sec.toInt % 86400 := by
  rw [secondOfDay]
  omega

/-- On one day the clock that comes first is the one of the lesser second. -/
theorem SameDay.timeText_lt_iff {stamp stamp' : Stamp} (h : stamp.SameDay stamp') :
    stamp.timeText.toList < stamp'.timeText.toList ↔ stamp.sec.toInt < stamp'.sec.toInt := by
  have hsecond := stamp.coe_secondOfDay
  have hsecond' := stamp'.coe_secondOfDay
  have hday := h.day
  rw [timeText_of_inCalendar h.left, timeText_of_inCalendar h.right,
    clockText_lt_iff stamp.secondOfDay_lt stamp'.secondOfDay_lt]
  omega

theorem SameDay.timeText_eq_iff {stamp stamp' : Stamp} (h : stamp.SameDay stamp') :
    stamp.timeText = stamp'.timeText ↔ stamp.sec.toInt = stamp'.sec.toInt := by
  have hday := h.day
  rw [Stamp.timeText_eq_iff, SameTimeOfDay]
  simp only [h.left, h.right, true_and, not_true, false_and, or_false]
  omega

end Stamp

namespace Record

/-- The first sixteen characters of the line of a record. -/
def stampColumns (record : Record) (palette : Palette) : List Char :=
  (record.line palette).toList.take 16

/-- Six digits of microseconds fill the columns up to the bracket. -/
theorem stampColumns_eq {record : Record} (h : record.stamp.usec.toNat < 1000000)
    (palette : Palette) :
    record.stampColumns palette = '[' :: (record.stamp.timeText.toList ++
      '.' :: (zeroPadded 6 record.stamp.usec.toNat).toList) := by
  have hmicros : (zeroPadded 6 record.stamp.usec.toNat).toList.length = 6 :=
    (length_zeroPadded_eq_iff (by decide) _).mpr h
  obtain ⟨rest, hline⟩ := record.exists_toList_line palette
  rw [← List.append_assoc] at hline
  rw [stampColumns, hline, List.take_left' (by simp [record.stamp.length_timeText, hmicros])]
  simp

/-- On one day the columns stand in the order of the stamps. -/
theorem stampColumns_lt_iff {record record' : Record} (hday : record.stamp.SameDay record'.stamp)
    (h : record.stamp.usec.toNat < 1000000) (h' : record'.stamp.usec.toNat < 1000000)
    (palette palette' : Palette) :
    record.stampColumns palette < record'.stampColumns palette' ↔
      record.stamp.Before record'.stamp := by
  have hlength : record.stamp.timeText.toList.length = record'.stamp.timeText.toList.length := by
    rw [Stamp.length_timeText, Stamp.length_timeText]
  rw [stampColumns_eq h, stampColumns_eq h', List.cons_lt_cons_self, append_lt_append_iff hlength,
    List.cons_lt_cons_self, zeroPadded_lt_iff (by decide) h h', String.toList_inj,
    hday.timeText_lt_iff, hday.timeText_eq_iff, Stamp.before_iff]

/-- What the first columns tell of the stamps of two records. -/
structure StampsShown (record record' : Record) (palette palette' : Palette) : Prop where
  /-- Within the calendar a line begins with the time since the midnight before. -/
  known : record.stamp.InCalendar → ∃ hour minute second : Nat,
    hour < 24 ∧ minute < 60 ∧ second < 60 ∧
    ((3600 * hour + 60 * minute + second : Nat) : Int) = record.stamp.sec.toInt % 86400 ∧
    '[' :: (twoDigits hour ++ ':' :: (twoDigits minute ++ ':' :: (twoDigits second ++ ['.']))) <+:
      (record.line palette).toList
  /-- Outside the calendar it tells no time. -/
  unknown : ¬record.stamp.InCalendar → "[??:??:??.".toList <+: (record.line palette).toList
  /-- The records of calls have microseconds that fit their columns. -/
  made : record.Made → record.stamp.usec.toNat < 1000000
  /-- On one day the columns stand in the order of the stamps. -/
  ordered : record.stamp.SameDay record'.stamp → record.stamp.usec.toNat < 1000000 →
    record'.stamp.usec.toNat < 1000000 →
    (record.stampColumns palette < record'.stampColumns palette' ↔
      record.stamp.Before record'.stamp)
  /-- Equal columns mean equal stamps. -/
  equal : record.stamp.SameDay record'.stamp → record.stamp.usec.toNat < 1000000 →
    record'.stamp.usec.toNat < 1000000 →
    (record.stampColumns palette = record'.stampColumns palette' ↔ record.stamp = record'.stamp)

theorem stamps_shown (record record' : Record) (palette palette' : Palette) :
    StampsShown record record' palette palette' := by
  obtain ⟨rest, hline⟩ := record.exists_toList_line palette
  constructor
  case known =>
    intro h
    have hsecond := record.stamp.coe_secondOfDay
    have hlt := record.stamp.secondOfDay_lt
    refine ⟨record.stamp.secondOfDay / 3600, record.stamp.secondOfDay / 60 % 60,
      record.stamp.secondOfDay % 60, by omega, by omega, by omega, by omega, ?_⟩
    rw [hline, Stamp.timeText_of_inCalendar h, toList_clockText hlt]
    exact ⟨(zeroPadded 6 record.stamp.usec.toNat).toList ++ ']' :: rest, by simp⟩
  case unknown =>
    intro h
    have htime : record.stamp.timeText = "??:??:??" := if_neg h
    rw [hline, htime]
    exact ⟨_, rfl⟩
  case made => exact fun h => ((made_iff_sound record).mp h).usec
  case ordered => exact fun hday h h' => stampColumns_lt_iff hday h h' palette palette'
  case equal =>
    intro hday h h'
    have hfirst := stampColumns_lt_iff hday h h' palette palette'
    have hback : record'.stamp.SameDay record.stamp := ⟨hday.right, hday.left, hday.day.symm⟩
    have hlast := stampColumns_lt_iff hback h' h palette' palette
    rw [Stamp.before_iff] at hfirst hlast
    rw [Stamp.eq_iff]
    constructor
    · intro heq
      rw [heq] at hfirst hlast
      have hno := mt hfirst.mpr (List.lt_irrefl _)
      have hno' := mt hlast.mpr (List.lt_irrefl _)
      omega
    · intro heq
      apply List.le_antisymm
      · exact List.not_lt.mp (mt hlast.mp (by omega))
      · exact List.not_lt.mp (mt hfirst.mp (by omega))

end Record

namespace OrderWitness

/-- The last second before 1970, in colours and of a node that looks like a time. -/
def evening : Record :=
  Record.new ⟨-1, 999999⟩ 3 .fatal "00:00:00" ""

/-- A moment of the same day, nine hours before. -/
def afternoon : Record :=
  Record.new ⟨-32401, 5⟩ 4294967295 .debug "imu" "[23:59:59.999999]"

theorem stamps_shown_afternoon :
    (afternoon.stamp.SameDay evening.stamp ∧
      afternoon.stampColumns .plain < evening.stampColumns .default) ∧
      afternoon.stampColumns .plain = "[14:59:59.000005".toList := by
  have hday : afternoon.stamp.SameDay evening.stamp := ⟨by decide, by decide, by decide⟩
  have hbefore : afternoon.stamp.Before evening.stamp := by decide
  have hordered := (Record.stamps_shown afternoon evening .plain .default).ordered hday (by decide)
    (by decide)
  exact ⟨⟨hday, hordered.mpr hbefore⟩, by decide +kernel⟩

end OrderWitness

end Logbook
