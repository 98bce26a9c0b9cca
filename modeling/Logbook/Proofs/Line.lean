/-
What a console line keeps of its record.  The time of day and the tag have a fixed width, the
microseconds end with the first character that is no digit, and what is known of the node is where
the message begins.  So nothing that stands in the node or in the message can be taken for another
part of the line.  Main statement: `Record.line_eq_iff`, two records of a node show the same line
only if they agree in all that a line shows.
-/
import Logbook.Proofs.Columns
import Mathlib.Logic.Function.Basic

namespace Logbook

namespace Text

theorem ofDigitChars_zeroPadded (width n : Nat) :
    Nat.ofDigitChars 10 (zeroPadded width n).toList 0 = n := by
  rw [toList_zeroPadded, Nat.ofDigitChars_append, Nat.ofDigitChars_replicate_zero, Nat.mul_zero,
    Nat.ofDigitChars_ten_toDigits]

/-- Zeros in front of a number do not hide it. -/
theorem zeroPadded_injective (width : Nat) : Function.Injective (zeroPadded width) := by
  intro n m h
  rw [← ofDigitChars_zeroPadded width n, h, ofDigitChars_zeroPadded]

end Text

open Text

/-- A clock shows every second of the day differently. -/
theorem clockText_inj {second second' : Nat} (h : second < 86400) (h' : second' < 86400)
    (heq : clockText second = clockText second') : second = second' := by
  have hpair : ∀ n, n < 100 → (zeroPadded 2 n).toList.length = 2 :=
    fun n hn => (length_zeroPadded_eq_iff (by decide) n).mpr hn
  have hlist := congrArg String.toList heq
  simp only [clockText, String.toList_append, List.append_assoc] at hlist
  obtain ⟨hhour, hlist⟩ := List.append_inj hlist
    (by rw [hpair _ (by omega), hpair _ (by omega)])
  obtain ⟨hminute, hlist⟩ := List.append_inj (List.append_cancel_left hlist)
    (by rw [hpair _ (by omega), hpair _ (by omega)])
  have hours := zeroPadded_injective 2 (String.toList_inj.mp hhour)
  have minutes := zeroPadded_injective 2 (String.toList_inj.mp hminute)
  have seconds := zeroPadded_injective 2
    (String.toList_inj.mp (List.append_cancel_left hlist))
  omega

namespace Stamp

/-- Two stamps fall on the same second of a day, or the calendar knows neither. -/
def SameTimeOfDay (stamp stamp' : Stamp) : Prop :=
  (stamp.InCalendar ∧ stamp'.InCalendar ∧ stamp.sec.toInt % 86400 = stamp'.sec.toInt % 86400) ∨
    (¬stamp.InCalendar ∧ ¬stamp'.InCalendar)

instance (stamp stamp' : Stamp) : Decidable (stamp.SameTimeOfDay stamp') :=
  inferInstanceAs (Decidable (_ ∨ _))

theorem secondOfDay_lt (stamp : Stamp) : stamp.secondOfDay < 86400 := by
  unfold secondOfDay
  omega

/-- No clock shows question marks. -/
theorem clockText_ne_unknown (second : Nat) : clockText second ≠ "??:??:??" := by
  intro h
  have hfirst : (clockText second).toList.head? = some '?' := by
    rw [h]
    rfl
  have hdigit : ∃ c rest, (zeroPadded 2 (second / 3600)).toList = c :: rest := by
    apply List.exists_cons_of_length_pos
    rw [length_zeroPadded]
    omega
  obtain ⟨c, rest, hhour⟩ := hdigit
  have hc : c.isDigit = true := isDigit_of_mem_zeroPadded (hhour ▸ List.mem_cons_self)
  simp only [clockText, String.toList_append, hhour, List.cons_append, List.head?_cons,
    Option.some.injEq] at hfirst
  rw [hfirst] at hc
  exact absurd hc (by decide)

theorem timeText_eq_iff (stamp stamp' : Stamp) :
    stamp.timeText = stamp'.timeText ↔ stamp.SameTimeOfDay stamp' := by
  have hsecond : stamp.secondOfDay = stamp'.secondOfDay ↔
      stamp.sec.toInt % 86400 = stamp'.sec.toInt % 86400 := by
    unfold secondOfDay
    omega
  have hclock : clockText stamp.secondOfDay = clockText stamp'.secondOfDay ↔
      stamp.secondOfDay = stamp'.secondOfDay :=
    ⟨clockText_inj stamp.secondOfDay_lt stamp'.secondOfDay_lt, congrArg clockText⟩
  unfold timeText SameTimeOfDay
  by_cases h : stamp.InCalendar
  · by_cases h' : stamp'.InCalendar
    · simp [h, h', hclock, hsecond]
    · simp [h, h', clockText_ne_unknown]
  · by_cases h' : stamp'.InCalendar
    · simp [h, h', (clockText_ne_unknown _).symm]
    · simp [h, h']

end Stamp

theorem Color.length_escape (color : Color) : color.escape.toList.length = 5 := by
  cases color <;> rfl

namespace Palette

/-- The escape sequences of a palette are all of one length. -/
theorem length_levelEscape (palette : Palette) (level level' : Level) :
    (palette.levelEscape level).toList.length = (palette.levelEscape level').toList.length := by
  cases palette with
  | plain => rfl
  | colored colors => simp only [levelEscape, Color.length_escape]

/-- The name of a level in five columns. -/
def column (level : Level) : List Char :=
  (Layout.apply { width := 5 } level.name).toList

theorem length_column (level : Level) : (column level).length = 5 := by
  cases level <;> decide +kernel

theorem column_injective : Function.Injective column := by
  intro level level' h
  cases level <;> cases level' <;> first | rfl | exact absurd h (by decide +kernel)

theorem toList_tag (palette : Palette) (level : Level) :
    (palette.tag level).toList = (palette.levelEscape level).toList ++
      (palette.bold.toList ++ '[' :: (column level ++ ']' :: palette.reset.toList)) := by
  simp [tag, column]

/-- The tags of a palette are all of one length. -/
theorem length_tag (palette : Palette) (level level' : Level) :
    (palette.tag level).toList.length = (palette.tag level').toList.length := by
  simp [toList_tag, length_column, palette.length_levelEscape level level']

/-- In one palette every level has a tag of its own, also where all have one colour. -/
theorem tag_injective (palette : Palette) : Function.Injective palette.tag := by
  intro level level' h
  have hlist := congrArg String.toList h
  rw [toList_tag, toList_tag] at hlist
  have hcolumns := (List.append_inj hlist (palette.length_levelEscape level level')).2
  have hnames := (List.cons.inj (List.append_cancel_left hcolumns)).2
  exact column_injective (List.append_inj_left hnames (by simp [length_column]))

end Palette

namespace Record

/-- A line from its first bracket to its last character. -/
theorem toList_line (record : Record) (palette : Palette) :
    (record.line palette).toList =
      '[' :: (record.stamp.timeText.toList ++ '.' ::
        ((zeroPadded 6 record.stamp.usec.toNat).toList ++ ']' :: ' ' ::
          ((palette.tag record.level).toList ++ " [".toList ++ record.nodeName.toList ++
            "] ".toList ++ record.message.toList))) := by
  simp [line]

/-- Two records of a node show the same line just if they have the same level, microseconds,
message and time of day, whatever stands in the node and in the messages. -/
theorem line_eq_iff (palette : Palette) {record record' : Record}
    (hnode : record.nodeName = record'.nodeName) :
    record.line palette = record'.line palette ↔
      record.level = record'.level ∧ record.stamp.usec = record'.stamp.usec ∧
        record.message = record'.message ∧ record.stamp.SameTimeOfDay record'.stamp := by
  constructor
  · intro h
    have hmicros : (zeroPadded 6 record.stamp.usec.toNat).toList =
        (zeroPadded 6 record'.stamp.usec.toNat).toList := by
      rw [← record.microsecondsOf_line palette, h, microsecondsOf_line]
    have husec : record.stamp.usec = record'.stamp.usec :=
      UInt32.toNat_inj.mp (zeroPadded_injective 6 (String.toList_inj.mp hmicros))
    have hline := congrArg String.toList h
    rw [toList_line, toList_line, hnode, hmicros] at hline
    obtain ⟨htime, hrest⟩ := List.append_inj (List.cons.inj hline).2
      (by rw [Stamp.length_timeText, Stamp.length_timeText])
    have hbehind := List.append_cancel_left (List.cons.inj hrest).2
    have hbody := (List.cons.inj (List.cons.inj hbehind).2).2
    simp only [List.append_assoc] at hbody
    obtain ⟨htag, hbody⟩ := List.append_inj hbody (palette.length_tag _ _)
    have hmessage :=
      List.append_cancel_left (List.append_cancel_left (List.append_cancel_left hbody))
    exact ⟨palette.tag_injective (String.toList_inj.mp htag), husec,
      String.toList_inj.mp hmessage, (Stamp.timeText_eq_iff _ _).mp (String.toList_inj.mp htime)⟩
  · rintro ⟨hlevel, husec, hmessage, htime⟩
    have htext := (Stamp.timeText_eq_iff _ _).mpr htime
    rw [line, line, hlevel, husec, hmessage, htext, hnode]

end Record

namespace DaysWitness

/-- The last second of a day, with a node and a message that look like parts of a line. -/
def early : Record :=
  Record.new ⟨-1, 1000000⟩ 7 .info "a] [b" "[WARN ] \x1b[0m 000000] "

/-- The same second a day later. -/
def late : Record :=
  Record.new ⟨86399, 1000000⟩ 8 .info "a] [b" "[WARN ] \x1b[0m 000000] "

/-- What a line does not show is the day and the number. -/
theorem line_eq_iff_days :
    early.nodeName = late.nodeName ∧ early ≠ late ∧
      early.line .default = late.line .default :=
  ⟨rfl, by decide, (Record.line_eq_iff .default rfl).mpr (by decide +kernel)⟩

end DaysWitness

end Logbook
