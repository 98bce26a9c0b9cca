/-
Nanoseconds in 64 bits.  What does not fit stops at the end of the range that it lies beyond, and
nothing wraps around: each word that is kept has the value of the exact number, cut to the range.
So a reading or an interval that fits is kept exactly, the mark of a gate that has not opened is
no reading, and a difference that stops at an end of the range is still on the same side of every
interval as the exact one.  Main statements: `toInt_ofReading_eq`, `toInt_difference` and
`isShut_iff`.
-/
import Logbook.Gate

namespace Logbook

namespace Nanos

/-- The longest distance, on either side of the base of the clock, that is kept exactly. -/
def reach : Nat := 0x7fffffffffffffff

/-- What is kept of a distance from the base of the clock. -/
def clamp (nanos : Int) : Int :=
  max (-reach) (min nanos reach)

theorem clamp_of_le {nanos : Int} (hlow : -reach ≤ nanos) (hhigh : nanos ≤ reach) :
    clamp nanos = nanos := by
  unfold clamp
  omega

/-- Readings that come one behind the other are not kept further apart than they are. -/
theorem clamp_sub_clamp_le {earlier later : Int} (h : earlier ≤ later) :
    clamp later - clamp earlier ≤ later - earlier := by
  unfold clamp
  omega

theorem toInt_ofReading_eq (nanos : Int) : (ofReading nanos).toInt = clamp nanos := by
  rw [clamp, reach]
  unfold ofReading
  split
  case isTrue hlow =>
    have hkept : (never + 1).toInt = -0x7fffffffffffffff := by decide
    omega
  case isFalse hlow =>
    split
    case isTrue hhigh =>
      have hkept : Int64.maxValue.toInt = 0x7fffffffffffffff := by decide
      omega
    case isFalse hhigh =>
      rw [Int64.toInt_ofInt_of_le (by omega) (by omega)]
      omega

theorem toInt_ofReading {nanos : Int} (hlow : -reach ≤ nanos) (hhigh : nanos ≤ reach) :
    (ofReading nanos).toInt = nanos := by
  rw [toInt_ofReading_eq, clamp_of_le hlow hhigh]

/-- A reading before the base is kept as its distance with the sign changed, and to change the
sign of a distance does not overflow. -/
theorem ofReading_neg (nanos : Nat) :
    ofReading (-nanos) = -ofReading nanos ∧
      (-ofReading nanos).toInt = -(ofReading nanos).toInt := by
  have hsign : (-ofReading nanos).toInt = -(ofReading nanos).toInt := by
    rw [Int64.toInt_neg, toInt_ofReading_eq, clamp, reach]
    apply Int.bmod_eq_of_le <;> omega
  refine ⟨Int64.toInt_inj.mp ?_, hsign⟩
  rw [hsign, toInt_ofReading_eq, toInt_ofReading_eq]
  unfold clamp
  omega

/-- No reading is mistaken for the mark of a gate that has not opened. -/
theorem ofReading_ne_never (nanos : Int) : ofReading nanos ≠ never := by
  intro h
  have hkept := toInt_ofReading_eq nanos
  have hnever : never.toInt = -0x8000000000000000 := by decide
  rw [h, hnever, clamp, reach] at hkept
  omega

theorem toInt_ofInterval_eq (nanos : Nat) : (ofInterval nanos).toInt = min nanos reach := by
  rw [reach]
  unfold ofInterval
  split
  case isTrue hlong =>
    have hkept : Int64.maxValue.toInt = 0x7fffffffffffffff := by decide
    omega
  case isFalse hfits =>
    rw [Int64.toInt_ofNat_of_lt (by omega)]
    omega

/-- The difference of two words is the exact one, cut to the range of words. -/
theorem toInt_difference (a b : Int64) :
    (difference a b).toInt =
      max Int64.minValue.toInt (min (a.toInt - b.toInt) Int64.maxValue.toInt) := by
  have hmin : Int64.minValue.toInt = -0x8000000000000000 := by decide
  have hmax : Int64.maxValue.toInt = 0x7fffffffffffffff := by decide
  rw [hmin, hmax]
  dsimp only [difference]
  split
  case isTrue hlow => omega
  case isFalse hlow =>
    split
    case isTrue hhigh => omega
    case isFalse hhigh =>
      rw [Int64.toInt_ofInt_of_le (by omega) (by omega)]
      omega

/-- An interval is never negative, so a difference that was cut off is on the right side of it. -/
theorem difference_lt_iff {a b interval : Int64} (h : 0 ≤ interval.toInt) :
    difference a b < interval ↔ a.toInt - b.toInt < interval.toInt := by
  have hinterval := interval.toInt_le
  have hmin : Int64.minValue.toInt = -0x8000000000000000 := by decide
  have hmax : Int64.maxValue.toInt = 0x7fffffffffffffff := by decide
  rw [Int64.lt_iff_toInt_lt, toInt_difference, hmin, hmax]
  omega

end Nanos

namespace IntervalGate

theorem visit_fst (gate : IntervalGate) (interval : Nat) (reading : Int) :
    (gate.visit interval reading).1 =
      !gate.isShut (Nanos.ofInterval interval) (Nanos.ofReading reading) := by
  cases h : gate.isShut (Nanos.ofInterval interval) (Nanos.ofReading reading) <;> simp [visit, h]

theorem visit_snd (gate : IntervalGate) (interval : Nat) (reading : Int) :
    (gate.visit interval reading).2 =
      if (gate.visit interval reading).1 then ⟨Nanos.ofReading reading⟩ else gate := by
  cases h : gate.isShut (Nanos.ofInterval interval) (Nanos.ofReading reading) <;> simp [visit, h]

/-- A gate is shut when what is kept of the time since it opened is less than what is kept of the
interval. -/
theorem isShut_iff_clamp {gate : IntervalGate} {interval : Nat} {reading : Int} :
    gate.isShut (Nanos.ofInterval interval) (Nanos.ofReading reading) = true ↔
      gate.last ≠ Nanos.never ∧
        Nanos.clamp reading - gate.last.toInt < min interval Nanos.reach := by
  have hspan := Nanos.toInt_ofInterval_eq interval
  rw [isShut, Bool.and_eq_true, decide_eq_true_iff, bne_iff_ne,
    Nanos.difference_lt_iff (by omega), hspan, Nanos.toInt_ofReading_eq]

/-- A gate is shut when it has opened less than an interval before. -/
theorem isShut_iff {gate : IntervalGate} {interval : Nat} {reading : Int}
    (hinterval : interval ≤ Nanos.reach) (hlow : -Nanos.reach ≤ reading)
    (hhigh : reading ≤ Nanos.reach) :
    gate.isShut (Nanos.ofInterval interval) (Nanos.ofReading reading) = true ↔
      gate.last ≠ Nanos.never ∧ reading - gate.last.toInt < interval := by
  rw [isShut_iff_clamp, Nanos.clamp_of_le hlow hhigh, Nat.min_eq_left hinterval]

end IntervalGate

end Logbook
