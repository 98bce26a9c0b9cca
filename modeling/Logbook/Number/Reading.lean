/-
Reading decimal texts as floating point values.  The value of a text is the one nearest to the
decimal it writes, whatever the number of its digits.
-/
import Logbook.Number.Decimal
import Logbook.Text.Blank

namespace Logbook

/-- The parts of a decimal text: digits before and behind the point, and the exponent. -/
structure DecimalText where
  negative : Bool
  whole : List Char
  fraction : Option (List Char)
  exponent : Option (Bool × List Char)
  deriving Repr

namespace DecimalText

/-- A sign in front of a text. -/
def splitSign : List Char → Bool × List Char
  | '-' :: rest => (true, rest)
  | '+' :: rest => (false, rest)
  | rest => (false, rest)

/-- Cuts a text at its point and at its exponent mark, whatever stands between them. -/
def split (s : List Char) : DecimalText :=
  let (negative, s) := splitSign s
  let isMark (c : Char) : Bool := c == 'e' || c == 'E'
  let mantissa := s.takeWhile (!isMark ·)
  let exponent := match s.dropWhile (!isMark ·) with
    | [] => none
    | _ :: rest => some (splitSign rest)
  let fraction := match mantissa.dropWhile (· != '.') with
    | [] => none
    | _ :: rest => some rest
  ⟨negative, mantissa.takeWhile (· != '.'), fraction, exponent⟩

/-- The number that digits write. -/
def ofDigits (digits : List Char) : Nat :=
  digits.foldl (fun n c => n * 10 + (c.toNat - '0'.toNat)) 0

/-- The nearest value of a format. -/
def value (format : BinaryFormat) (t : DecimalText) : Binary :=
  let fraction := t.fraction.getD []
  let exponent : Int := match t.exponent with
    | none => 0
    | some (negative, digits) => if negative then -ofDigits digits else ofDigits digits
  Binary.ofDecimal format t.negative (ofDigits (t.whole ++ fraction)) (exponent - fraction.length)

end DecimalText

/-- Reads a value: a decimal with at least one digit, an infinity or NaN, in any case. -/
def Binary.ofText? (format : BinaryFormat) (s : String) : Option Binary :=
  let (negative, rest) := DecimalText.splitSign s.toList
  match Text.asciiLower (String.ofList rest) with
  | "inf" => some (.infinite negative)
  | "infinity" => some (.infinite negative)
  | "nan" => some .nan
  | _ =>
      let t := DecimalText.split s.toList
      let digits := t.whole ++ t.fraction.getD []
      let exponentDigits := (t.exponent.map Prod.snd).getD ['0']
      if digits.isEmpty || exponentDigits.isEmpty then none
      else if digits.all Char.isDigit && exponentDigits.all Char.isDigit then
        some (t.value format)
      else none

namespace ReadingWitness

example : (Binary.ofText? .double "-1.50e2").map (·.text .double .bare) = some "-150" := by
  decide +kernel

example : Binary.ofText? .double "." = none ∧ Binary.ofText? .double "1e" = none := by
  decide +kernel

end ReadingWitness

end Logbook
