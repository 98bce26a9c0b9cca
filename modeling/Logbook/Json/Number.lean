/-
JSON numbers.  The written form keeps its digits.  Its value is gathered digit by digit in a word
of 64 bits; digits that no longer fit are dropped, where those before the point still count as
tens.  A form with a point or an exponent, a negative zero and everything too great for 64 bits
is a floating point value: the gathered word times or divided by a power of ten, with a rounding
at each step.
-/
import Logbook.Json.Problem

namespace Logbook.Json

/-- The exponent of a written number. -/
structure Exponent where
  negative : Bool
  digits : List Nat
  deriving DecidableEq, Repr

/-- A number as it is written. -/
structure NumberText where
  negative : Bool
  whole : List Nat
  fraction : Option (List Nat)
  exponent : Option Exponent
  deriving DecidableEq, Repr

/-- The digits gathered so far, the power of ten they stand for, and whether a digit was
dropped. -/
structure Gathered where
  word : Nat := 0
  exponent : Int := 0
  full : Bool := false

namespace Gathered

/-- The greatest word. -/
def limit : Nat := 0xffffffffffffffff

/-- Takes a digit before the point.  From the first that does not fit, digits count as tens. -/
def whole (g : Gathered) (digit : Nat) : Gathered :=
  if g.full || limit < g.word * 10 + digit then
    { g with exponent := g.exponent + 1, full := true }
  else { g with word := g.word * 10 + digit }

/-- Takes a digit behind the point.  From the first that does not fit, digits are dropped. -/
def fraction (g : Gathered) (digit : Nat) : Gathered :=
  if g.full || limit < g.word * 10 + digit then { g with full := true }
  else { g with word := g.word * 10 + digit, exponent := g.exponent - 1 }

end Gathered

namespace NumberText

/-- The written form of a whole number. -/
def ofInt (i : Int) : NumberText :=
  ⟨decide (i < 0), (Nat.toDigits 10 i.natAbs).map fun c => c.toNat - '0'.toNat, none, none⟩

/-- The digits of the whole part in a word, before any point. -/
def gatherWhole (t : NumberText) : Gathered :=
  t.whole.foldl Gathered.whole {}

/-- All digits in a word.  Behind the point the word may take digits again. -/
def gather (t : NumberText) : Gathered :=
  (t.fraction.getD []).foldl Gathered.fraction { t.gatherWhole with full := false }

/-- The greatest exponent that is computed with. -/
def exponentLimit : Nat := 0x7fffffff

/-- Ten to a power, as a floating point value. -/
def power (n : Nat) : Fraction :=
  match Binary.ofDecimal .double false 1 n with
  | .finite _ significand exponent => Binary.magnitude significand exponent
  | _ => ⟨1, 1⟩

/-- The greatest power of ten that is a floating point value. -/
def greatestPower : Nat := 308

/-- The product of a value and a power of ten.  Small powers are reached by dividing as often as
needed; a product too great is no number. -/
def shift (x : Binary) (exponent : Int) : Except Error Binary :=
  if _h : exponent < -greatestPower then
    if x.isZero then .ok x
    else
      let factor := power greatestPower
      shift (x.scaleBy .double ⟨factor.den, factor.num⟩) (exponent + greatestPower)
  else if exponent < 0 then
    let factor := power exponent.natAbs
    .ok (x.scaleBy .double ⟨factor.den, factor.num⟩)
  else if greatestPower < exponent then if x.isZero then .ok x else .error .malformed
  else match x.scaleBy .double (power exponent.toNat) with
    | .infinite _ => .error .malformed
    | y => .ok y
termination_by (-exponent).toNat
decreasing_by
  simp only [greatestPower] at *
  omega

/-- The digits of an exponent as a number. -/
def ofDigits (digits : List Nat) : Nat :=
  digits.foldl (fun n digit => n * 10 + digit) 0

/-- The floating point value of gathered digits and a written exponent. -/
def real (negative : Bool) (g : Gathered) (exponent : Option Exponent) : Except Error Binary :=
  let start := Binary.round .double negative ⟨g.word, 1⟩
  match exponent with
  | none => shift start g.exponent
  | some e =>
      let n := ofDigits e.digits
      if exponentLimit < n then
        if g.word ≠ 0 ∧ !e.negative then .error .malformed
        else .ok (.finite negative 0 BinaryFormat.double.minExponent)
      else shift start (if e.negative then g.exponent - n else g.exponent + n)

/-- The value of a written number, unless it is too great. -/
def value (t : NumberText) : Except Error Number :=
  match t.fraction, t.exponent with
  | none, none =>
      let g := t.gatherWhole
      if g.full then (real t.negative g none).map .real
      else if !t.negative then .ok (.natural g.word)
      else if g.word = 0 ∨ 0x8000000000000000 < g.word then (real true g none).map .real
      else .ok (.negative g.word)
  | none, some e => (real t.negative t.gatherWhole (some e)).map .real
  | some _, e => (real t.negative t.gather e).map .real

end NumberText

end Logbook.Json
