/-
Decimal texts of floating point values.  The digits shown are the fewest that read back to the
same value, and of those the nearest to it; a style decides the rest.  Main functions: `shortest`
finds the digits, `Binary.text` lays them out, and `ofText?` reads a decimal text.
-/
import Logbook.Number.Binary

namespace Logbook

/-- The decimal `digits · 10 ^ exponent`. -/
structure Decimal where
  digits : Nat
  exponent : Int
  deriving DecidableEq, Repr

namespace Decimal

/-- The number of decimal digits of a number, one for zero. -/
def width (n : Nat) : Nat :=
  (Nat.toDigits 10 n).length

/-- The same decimal without zeros at the end of its digits. -/
def normalize (digits : Nat) (exponent : Int) : Decimal :=
  if h : digits ≠ 0 ∧ digits % 10 = 0 then normalize (digits / 10) (exponent + 1)
  else ⟨digits, exponent⟩
termination_by digits
decreasing_by omega

end Decimal

/-- Which of two equally near decimals stands for a value. -/
inductive Tie where
  | even
  | greater
  deriving DecidableEq, Repr

/-- The reals that round to a value, as fractions; the ends belong to them when the value has an
even number of units. -/
structure RoundingRange where
  low : Fraction
  value : Fraction
  high : Fraction
  closed : Bool
  deriving Repr

namespace RoundingRange

/-- The range of a positive value.  Below the least significand of an exponent the neighbours
are half as far apart. -/
def ofFinite (format : BinaryFormat) (significand : Nat) (exponent : Int) : RoundingRange :=
  let quarters (n : Nat) : Fraction := Fraction.scale ⟨n, 1⟩ 2 (exponent - 2)
  let below := if significand = Nat.pow 2 (format.precision - 1) then 1 else 2
  ⟨quarters (4 * significand - below), quarters (4 * significand), quarters (4 * significand + 2),
    significand % 2 == 0⟩

/-- The decimal `digits · 10 ^ exponent` rounds to the value. -/
def holds (range : RoundingRange) (digits : Nat) (exponent : Int) : Bool :=
  let point := Fraction.scale ⟨digits, 1⟩ 10 exponent
  let low := range.low.num * point.den
  let atLow := point.num * range.low.den
  let high := range.high.num * point.den
  let atHigh := point.num * range.high.den
  if range.closed then decide (low ≤ atLow) && decide (atHigh ≤ high)
  else decide (low < atLow) && decide (atHigh < high)

/-- The decimal with a given exponent that stands for the value, if one rounds to it. -/
def onGrid? (range : RoundingRange) (tie : Tie) (exponent : Int) : Option Nat :=
  let cell := range.value.scale 10 (-exponent)
  let below := cell.floor
  let rest := 2 * (cell.num % cell.den)
  match range.holds below exponent, range.holds (below + 1) exponent with
  | false, false => none
  | true, false => some below
  | false, true => some (below + 1)
  | true, true =>
      if rest < cell.den then some below
      else if cell.den < rest then some (below + 1)
      else match tie with
        | .greater => some (below + 1)
        | .even => if below % 2 = 0 then some below else some (below + 1)

/-- An exponent such that the value is at most ten to it. -/
def top (range : RoundingRange) : Int :=
  let whole := range.value.floor
  if whole ≠ 0 then Decimal.width whole
  else 1 - (Decimal.width (range.value.den / range.value.num) : Int)

/-- The first grid, from coarse to fine, with a decimal that rounds to the value. -/
def search (range : RoundingRange) (tie : Tie) (exponent : Int) : Nat → Decimal
  | 0 => ⟨0, 0⟩
  | tries + 1 =>
      match range.onGrid? tie exponent with
      | some digits => Decimal.normalize digits exponent
      | none => search range tie (exponent - 1) tries

end RoundingRange

/-- The shortest decimal that reads back to a positive value.  Seventeen digits tell any two
values of eight bytes apart. -/
def shortest (format : BinaryFormat) (tie : Tie) (significand : Nat) (exponent : Int) : Decimal :=
  let range := RoundingRange.ofFinite format significand exponent
  range.search tie (range.top - 1) 18

/-- How the digits of a value are laid out. -/
structure FloatStyle where
  /-- Which of two equally near shortest decimals is shown. -/
  tie : Tie
  /-- A whole number ends in a point and a zero. -/
  pointed : Bool
  /-- The least and the greatest power of ten of the first digit that are written without an
  exponent; always, when absent. -/
  positional : Option (Int × Int)
  deriving Repr

namespace FloatStyle

/-- The style of values inside messages: digits alone. -/
def bare : FloatStyle := ⟨.greater, false, none⟩

/-- The style of values in complaints about settings: recognisable as no integer. -/
def pointedStyle : FloatStyle := ⟨.greater, true, none⟩

/-- The style of values in complaints about JSON: great and small values have an exponent. -/
def scientific : FloatStyle := ⟨.even, true, some (-5, 15)⟩

end FloatStyle

namespace Decimal

def digitText (d : Decimal) : String :=
  toString d.digits

/-- The power of ten of the first digit. -/
def leading (d : Decimal) : Int :=
  (width d.digits : Int) - 1 + d.exponent

/-- Zeros as text. -/
def zeros (n : Nat) : String :=
  String.ofList (List.replicate n '0')

/-- All digits around the point, however many zeros that takes. -/
def positionalText (d : Decimal) (pointed : Bool) : String :=
  let digits := d.digitText.toList
  if 0 ≤ d.exponent then
    d.digitText ++ zeros d.exponent.toNat ++ (if pointed then ".0" else "")
  else if 0 ≤ d.leading then
    let whole := (d.leading + 1).toNat
    String.ofList (digits.take whole) ++ "." ++ String.ofList (digits.drop whole)
  else "0." ++ zeros (-d.leading - 1).toNat ++ d.digitText

/-- One digit, the others behind the point, and a signed exponent. -/
def exponentText (d : Decimal) : String :=
  let digits := d.digitText.toList
  let tail := digits.drop 1
  let power := d.leading
  String.ofList (digits.take 1) ++ (if tail.isEmpty then "" else "." ++ String.ofList tail) ++
    "e" ++ (if 0 ≤ power then "+" else "-") ++ toString power.natAbs

end Decimal

/-- The text of a value of a format. -/
def Binary.text (format : BinaryFormat) (style : FloatStyle) : Binary → String
  | .nan => "NaN"
  | .infinite negative => if negative then "-inf" else "inf"
  | .finite negative significand exponent =>
      let d : Decimal :=
        if significand = 0 then ⟨0, 0⟩ else shortest format style.tie significand exponent
      let sign := if negative then "-" else ""
      match style.positional with
      | none => sign ++ d.positionalText style.pointed
      | some (least, greatest) =>
          if significand = 0 ∨ (least ≤ d.leading ∧ d.leading ≤ greatest) then
            sign ++ d.positionalText style.pointed
          else sign ++ d.exponentText

namespace DecimalWitness

example : (Binary.ofDecimal .double false 1 (-1)).text .double .bare = "0.1" := by decide +kernel

example : (Binary.ofDecimal .double true 0 0).text .double .scientific = "-0.0" := by
  decide +kernel

example : (Binary.ofDecimal .double false 1 23).text .double .scientific = "1e+23" := by
  decide +kernel

example : (Binary.ofDecimal .double false 5 (-324)).text .double .scientific = "5e-324" := by
  decide +kernel

example : (Binary.ofDecimal .single false 1 21).text .single .bare = "1000000000000000000000" := by
  decide +kernel

end DecimalWitness

end Logbook
