/-
Console lines.  Every record shows as

    [HH:MM:SS.UUUUUU] <colour><bold>[LEVEL]<reset> [node] message

with the time of day in UTC, at least six digits of microseconds and the level in five columns.
-/
import Logbook.Palette
import Logbook.Record
import Logbook.Text.Layout

namespace Logbook

namespace Stamp

/-- The first and the last second of the calendar, whose years have at most six digits. -/
def calendarFirst : Int := -8334601228800

/-- The last second of the calendar. -/
def calendarLast : Int := 8210266876799

/-- The moment lies within the calendar. -/
def InCalendar (stamp : Stamp) : Prop :=
  calendarFirst ≤ stamp.sec.toInt ∧ stamp.sec.toInt ≤ calendarLast

instance (stamp : Stamp) : Decidable stamp.InCalendar :=
  inferInstanceAs (Decidable (_ ∧ _))

/-- Seconds since the last midnight. -/
def secondOfDay (stamp : Stamp) : Nat :=
  (stamp.sec.toInt % 86400).toNat

end Stamp

/-- Hours, minutes and seconds of a second of the day. -/
def clockText (second : Nat) : String :=
  Text.zeroPadded 2 (second / 3600) ++ ":" ++ Text.zeroPadded 2 (second / 60 % 60) ++ ":" ++
    Text.zeroPadded 2 (second % 60)

/-- The time of day, or question marks outside the calendar. -/
def Stamp.timeText (stamp : Stamp) : String :=
  if stamp.InCalendar then clockText stamp.secondOfDay else "??:??:??"

/-- The level in brackets, left in five columns, in its colours. -/
def Palette.tag (palette : Palette) (level : Level) : String :=
  palette.levelEscape level ++ palette.bold ++ "[" ++
    Text.Layout.apply { width := 5 } level.name ++ "]" ++ palette.reset

/-- The console line of a record, without its line break. -/
def Record.line (record : Record) (palette : Palette) : String :=
  "[" ++ record.stamp.timeText ++ "." ++ Text.zeroPadded 6 record.stamp.usec.toNat ++ "] " ++
    palette.tag record.level ++ " [" ++ record.nodeName ++ "] " ++ record.message

namespace LineWitness

example : (Record.new ⟨-61, 42⟩ 0 .warn "imu" "up").line .plain =
    "[23:58:59.000042] [WARN ] [imu] up" := by decide +kernel

example : (Record.new ⟨8210266876800, 0⟩ 0 .fatal "imu" "").line .default =
    "[??:??:??.000000] \x1b[35m\x1b[1m[FATAL]\x1b[0m [imu] " := by decide +kernel

end LineWitness

end Logbook
