/-
The columns of a console line.  The time of day takes eight characters, also where it is not known,
so the microseconds begin in the same column of every line, and they end with the first character
that is no digit.  Main statement: `Record.microsecondsOf_line`.
-/
import Logbook.Line
import Mathlib.Algebra.Group.Nat.Defs

namespace Logbook

namespace Text

theorem toList_zeroPadded (width n : Nat) :
    (zeroPadded width n).toList =
      List.replicate (width - (Nat.toDigits 10 n).length) '0' ++ Nat.toDigits 10 n := by
  simp [zeroPadded, Layout.apply, Layout.lead, Nat.toList_repr]

theorem length_zeroPadded (width n : Nat) :
    (zeroPadded width n).toList.length = max width (Nat.toDigits 10 n).length := by
  rw [toList_zeroPadded, List.length_append, List.length_replicate]
  omega

theorem length_zeroPadded_eq_iff {width : Nat} (h : 0 < width) (n : Nat) :
    (zeroPadded width n).toList.length = width ↔ n < 10 ^ width := by
  rw [length_zeroPadded, ← Nat.length_toDigits_le_iff (by decide) h]
  omega

theorem isDigit_of_mem_zeroPadded {width n : Nat} {c : Char}
    (h : c ∈ (zeroPadded width n).toList) : c.isDigit = true := by
  rw [toList_zeroPadded, List.mem_append] at h
  rcases h with hzero | hdigit
  · rw [List.eq_of_mem_replicate hzero]
    rfl
  · exact Nat.isDigit_of_mem_toDigits (by decide) (by decide) hdigit

end Text

open Text

theorem length_clockText {second : Nat} (h : second < 86400) :
    (clockText second).toList.length = 8 := by
  have hpair : ∀ n, n < 100 → (zeroPadded 2 n).toList.length = 2 :=
    fun n hn => (length_zeroPadded_eq_iff (by decide) n).mpr hn
  have hhour := hpair (second / 3600) (by omega)
  have hminute := hpair (second / 60 % 60) (by omega)
  have hsecond := hpair (second % 60) (by omega)
  simp only [clockText, String.toList_append, List.length_append, hhour, hminute, hsecond]
  rfl

/-- The time of day takes eight characters, also outside the calendar. -/
theorem Stamp.length_timeText (stamp : Stamp) : stamp.timeText.toList.length = 8 := by
  unfold timeText
  split
  · refine length_clockText ?_
    unfold secondOfDay
    omega
  · rfl

/-- The microseconds of a console line: the digits behind the time of day and the point. -/
def microsecondsOf (line : List Char) : List Char :=
  (line.drop 10).takeWhile Char.isDigit

/-- A line begins with the time, a point and the microseconds in brackets. -/
theorem Record.exists_toList_line (record : Record) (palette : Palette) :
    ∃ rest, (record.line palette).toList =
      ('[' :: record.stamp.timeText.toList ++ ['.']) ++
        ((zeroPadded 6 record.stamp.usec.toNat).toList ++ ']' :: rest) := by
  refine ⟨' ' :: (palette.tag record.level ++ " [" ++ record.nodeName ++ "] " ++
    record.message).toList, ?_⟩
  simp [line]

theorem Record.microsecondsOf_line (record : Record) (palette : Palette) :
    microsecondsOf (record.line palette).toList =
      (zeroPadded 6 record.stamp.usec.toNat).toList := by
  obtain ⟨rest, hline⟩ := record.exists_toList_line palette
  have hlength : ('[' :: record.stamp.timeText.toList ++ ['.']).length = 10 := by
    simp [record.stamp.length_timeText]
  rw [microsecondsOf, hline, List.drop_left' hlength,
    List.takeWhile_append_of_pos fun c hc => isDigit_of_mem_zeroPadded hc]
  simp [Char.isDigit]

end Logbook
