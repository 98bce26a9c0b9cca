/-
Dates.  A day is counted from the first of 1970.  The count is turned into a date in years that
begin with March, so that the odd day of a leap year comes last.
-/
import Logbook.Line

namespace Logbook

/-- A day of the calendar. -/
structure CalendarDay where
  year : Int
  month : Nat
  day : Nat
  deriving DecidableEq, Repr

namespace CalendarDay

/-- The day with a number.  Every four hundred years have the same number of days. -/
def ofNumber (number : Int) : CalendarDay :=
  let shifted := number + 719468
  let era := shifted / 146097
  let dayOfEra := (shifted % 146097).toNat
  let yearOfEra := (dayOfEra - dayOfEra / 1460 + dayOfEra / 36524 - dayOfEra / 146096) / 365
  let dayOfYear := dayOfEra - (365 * yearOfEra + yearOfEra / 4 - yearOfEra / 100)
  let monthFromMarch := (5 * dayOfYear + 2) / 153
  let month := if monthFromMarch < 10 then monthFromMarch + 3 else monthFromMarch - 9
  { year := yearOfEra + era * 400 + (if month ≤ 2 then 1 else 0)
    month
    day := dayOfYear - (153 * monthFromMarch + 2) / 5 + 1 }

/-- The text of a day, with at least four digits of the year. -/
def text (d : CalendarDay) : String :=
  (if d.year < 0 then "-" else "") ++ Text.zeroPadded 4 d.year.natAbs ++ "-" ++
    Text.zeroPadded 2 d.month ++ "-" ++ Text.zeroPadded 2 d.day

end CalendarDay

/-- The date and the time of a stamp. -/
def Stamp.dateTimeText (stamp : Stamp) : String :=
  (CalendarDay.ofNumber (stamp.sec.toInt / 86400)).text ++ "T" ++ clockText stamp.secondOfDay ++
    "." ++ Text.zeroPadded 6 stamp.usec.toNat ++ "Z"

namespace CalendarWitness

example : CalendarDay.ofNumber 0 = ⟨1970, 1, 1⟩ ∧ CalendarDay.ofNumber (-1) = ⟨1969, 12, 31⟩ ∧
    CalendarDay.ofNumber 11016 = ⟨2000, 2, 29⟩ ∧ CalendarDay.ofNumber 47540 = ⟨2100, 2, 28⟩ ∧
    CalendarDay.ofNumber 47541 = ⟨2100, 3, 1⟩ := by decide +kernel

example : Stamp.dateTimeText ⟨951782399, 5⟩ = "2000-02-28T23:59:59.000005Z" := by decide +kernel

end CalendarWitness

end Logbook
