/-
Values of TOML documents that are a single word: booleans, numbers and moments.  A word is
looked at as a whole, so there is nothing that it may be the start of.
-/
import Logbook.Number.Reading
import Logbook.Text.Pieces
import Logbook.Toml.Moment

namespace Logbook.Toml

/-- A value that is one word or one quoted text. -/
inductive Scalar where
  | string (s : String)
  | integer (i : Int)
  | real (x : Binary)
  | boolean (b : Bool)
  | moment (m : Moment)
  deriving DecidableEq, Repr

namespace Scalar

/-- The digits of a number without the underscores in it.  Each underscore stands between two
digits. -/
def ungroup? (isDigit : Char → Bool) (s : List Char) : Option (List Char) :=
  let groups := Text.pieces (· == '_') s
  if groups.all fun group => !group.isEmpty && group.all isDigit then some groups.flatten else none

/-- The value of a digit in a base of at most sixteen. -/
def digitValue (c : Char) : Nat :=
  if c.isDigit then c.toNat - '0'.toNat else c.toLower.toNat - 'a'.toNat + 10

/-- A digit of a base of at most sixteen. -/
def isDigitOf (base : Nat) (c : Char) : Bool :=
  (c.isDigit || ('a' ≤ c.toLower && c.toLower ≤ 'f')) && decide (digitValue c < base)

/-- The number that digits of a base write. -/
def natural (base : Nat) (digits : List Char) : Nat :=
  digits.foldl (fun n c => n * base + digitValue c) 0

/-- Whole numbers have 64 bits and a sign. -/
def inRange (i : Int) : Bool :=
  decide (-0x8000000000000000 ≤ i ∧ i < 0x8000000000000000)

/-- A decimal has no zeros in front. -/
def hasLeadingZero : List Char → Bool
  | '0' :: _ :: _ => true
  | _ => false

/-- Reads a whole number without a sign in a given base. -/
def unsigned? (base : Nat) (s : List Char) : Option Int := do
  let digits ← ungroup? (isDigitOf base) s
  return natural base digits

/-- Reads a whole number: a decimal with or without a sign, or a hexadecimal, octal or binary
number without one. -/
def integer? (s : List Char) : Option Int := do
  let i ← match s with
    | '0' :: 'x' :: rest => unsigned? 16 rest
    | '0' :: 'o' :: rest => unsigned? 8 rest
    | '0' :: 'b' :: rest => unsigned? 2 rest
    | s =>
        let (negative, rest) := DecimalText.splitSign s
        if hasLeadingZero rest then none
        else (unsigned? 10 rest).map fun i => if negative then -i else i
  if inRange i then some i else none

/-- Takes the underscores out of the parts of a decimal text. -/
def ungroupDecimal? (t : DecimalText) : Option DecimalText := do
  let whole ← ungroup? Char.isDigit t.whole
  let fraction ← match t.fraction with
    | none => some none
    | some digits => (ungroup? Char.isDigit digits).map some
  let exponent ← match t.exponent with
    | none => some none
    | some (negative, digits) => (ungroup? Char.isDigit digits).map fun d => some (negative, d)
  return ⟨t.negative, whole, fraction, exponent⟩

/-- Reads a floating point value.  It has a fraction or an exponent, and it is not so great that
no value is near it. -/
def decimal? (s : List Char) : Option Binary := do
  let t := DecimalText.split s
  if hasLeadingZero t.whole || (t.fraction.isNone && t.exponent.isNone) then none
  else
    let t ← ungroupDecimal? t
    match t.value .double with
    | .infinite _ => none
    | x => some x

/-- Reads an infinity or NaN, with or without a sign. -/
def special? (s : List Char) : Option Binary :=
  let (negative, rest) := DecimalText.splitSign s
  if rest = ['i', 'n', 'f'] then some (.infinite negative)
  else if rest = ['n', 'a', 'n'] then some .nan
  else none

/-- Reads a floating point value of any kind. -/
def real? (s : List Char) : Option Binary :=
  special? s <|> decimal? s

def ofWord? (s : List Char) : Option Scalar :=
  if s = ['t', 'r', 'u', 'e'] then some (.boolean true)
  else if s = ['f', 'a', 'l', 's', 'e'] then some (.boolean false)
  else (integer? s).map .integer <|> (real? s).map .real <|> (Moment.ofText? s).map .moment

end Scalar

namespace ScalarWitness

example : Scalar.ofWord? "-1_000".toList = some (.integer (-1000)) := by decide +kernel

example : Scalar.ofWord? "0xff".toList = some (.integer 255) := by decide +kernel

example : Scalar.ofWord? "01".toList = none ∧ Scalar.ofWord? "1__0".toList = none ∧
    Scalar.ofWord? "+0x1".toList = none ∧ Scalar.ofWord? "1e999".toList = none ∧
    Scalar.ofWord? "9223372036854775808".toList = none ∧ Scalar.ofWord? ".5".toList = none := by
  decide +kernel

example : (Scalar.real? "6.5e-1_0".toList).map (·.text .double .scientific) =
    some "6.5e-10" := by decide +kernel

end ScalarWitness

end Logbook.Toml
