/-
Binary floating point values, held exactly.  A finite value is a whole number of units, each a
power of two, so every question about it is one about natural numbers.  Arithmetic rounds to
the nearest value of a format, and halfway between two values to the one with an even number
of units.
-/
namespace Logbook

/-- A format: the number of bits of a significand, and the exponents of the smallest and of the
largest unit. -/
structure BinaryFormat where
  precision : Nat
  minExponent : Int
  maxExponent : Int
  deriving DecidableEq, Repr

namespace BinaryFormat

/-- Eight bytes to a value. -/
def double : BinaryFormat := ⟨53, -1074, 971⟩

/-- Four bytes to a value. -/
def single : BinaryFormat := ⟨24, -149, 104⟩

end BinaryFormat

/-- A floating point value.  Zero keeps its sign. -/
inductive Binary where
  | nan
  | infinite (negative : Bool)
  | finite (negative : Bool) (significand : Nat) (exponent : Int)
  deriving DecidableEq, Repr

/-- A non-negative fraction; the denominator is meant to be positive. -/
structure Fraction where
  num : Nat
  den : Nat
  deriving DecidableEq, Repr

namespace Fraction

/-- The fraction times a power of a base. -/
def scale (f : Fraction) (base : Nat) (exponent : Int) : Fraction :=
  ⟨f.num * base.pow exponent.toNat, f.den * base.pow (-exponent).toNat⟩

/-- The greatest whole number not above the fraction. -/
def floor (f : Fraction) : Nat :=
  f.num / f.den

/-- The nearest whole number, and of two the even one. -/
def nearest (f : Fraction) : Nat :=
  let whole := f.num / f.den
  let twice := 2 * (f.num % f.den)
  if twice < f.den then whole
  else if f.den < twice then whole + 1
  else if whole % 2 = 0 then whole else whole + 1

/-- The nearest whole number, and of two the greater one. -/
def nearestUp (f : Fraction) : Nat :=
  (2 * f.num + f.den) / (2 * f.den)

end Fraction

namespace Binary

/-- The value of a format nearest to a fraction.  What is too great becomes infinite. -/
def round (format : BinaryFormat) (negative : Bool) (f : Fraction) : Binary :=
  let size : Int := (Nat.log2 f.num : Int) - (Nat.log2 f.den : Int)
  let low := size - format.precision
  let guess := if (f.scale 2 (-low)).floor < Nat.pow 2 format.precision then low else low + 1
  let exponent := max format.minExponent guess
  let units := (f.scale 2 (-exponent)).nearest
  let (units, exponent) :=
    if units = Nat.pow 2 format.precision then (units / 2, exponent + 1) else (units, exponent)
  if units = 0 then .finite negative 0 format.minExponent
  else if format.maxExponent < exponent then .infinite negative
  else .finite negative units exponent

/-- The magnitude of a finite value. -/
def magnitude (significand : Nat) (exponent : Int) : Fraction :=
  Fraction.scale ⟨significand, 1⟩ 2 exponent

/-- The value is zero of either sign. -/
def isZero : Binary → Bool
  | .finite _ significand _ => significand == 0
  | _ => false

/-- A finite value times a fraction, rounded; other values stay as they are. -/
def scaleBy (format : BinaryFormat) (x : Binary) (factor : Fraction) : Binary :=
  match x with
  | .finite negative significand exponent =>
      let m := magnitude significand exponent
      round format negative ⟨m.num * factor.num, m.den * factor.den⟩
  | other => other

/-- The value as a whole number of at most `limit`: halves away from zero, then the nearest end
of the range.  NaN counts as zero. -/
def saturate (limit : Nat) (x : Binary) : Nat :=
  match x with
  | .nan => 0
  | .infinite negative => if negative then 0 else limit
  | .finite negative significand exponent =>
      if negative then 0 else min limit (magnitude significand exponent).nearestUp

/-- The value of a decimal `digits · 10 ^ exponent`.  Ten lies between the third and the fourth
power of two, so exponents far outside the format are answered without computing the power. -/
def ofDecimal (format : BinaryFormat) (negative : Bool) (digits : Nat) (exponent : Int) : Binary :=
  if digits = 0 then .finite negative 0 format.minExponent
  else if format.maxExponent + format.precision < 3 * exponent then .infinite negative
  else if (Nat.log2 digits : Int) + 3 * exponent + 2 < format.minExponent then
    .finite negative 0 format.minExponent
  else round format negative (Fraction.scale ⟨digits, 1⟩ 10 exponent)

end Binary

end Logbook
