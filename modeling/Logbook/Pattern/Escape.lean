/-
Escapes in patterns.  Behind a backslash a letter names a set, a place or a character, and the
signs of ASCII stand for themselves.  Where blanks count for nothing they may stand between the
digits of a character's number, but not right behind the backslash.
-/
import Logbook.Pattern
import Logbook.Text.Blank
import Logbook.Text.Hexadecimal

namespace Logbook.Pattern

/-- Drops blanks and comments, given whether a comment is open.  A comment ends with its line. -/
def dropComments : Bool → List Char → List Char
  | _, [] => []
  | true, c :: rest => dropComments (c != '\n') rest
  | false, c :: rest =>
      if c = '#' then dropComments true rest
      else if Text.isBlank c then dropComments false rest
      else c :: rest

/-- Drops what counts for nothing in front of the next sign. -/
def skip (spaced : Bool) (s : List Char) : List Char :=
  if spaced then dropComments false s else s

/-- A sign of ASCII that stands for itself behind a backslash. -/
def isEscapable (c : Char) : Bool :=
  decide (c.toNat < 0x80) && !c.isAlphanum && c != '<' && c != '>'

/-- What a backslash and a character stand for. -/
def escaped? (c : Char) : Option Pattern :=
  match c with
  | 'd' => some (.shorthand .digit false)
  | 'D' => some (.shorthand .digit true)
  | 's' => some (.shorthand .blank false)
  | 'S' => some (.shorthand .blank true)
  | 'w' => some (.shorthand .word false)
  | 'W' => some (.shorthand .word true)
  | 'A' => some (.anchor .textStart)
  | 'z' => some (.anchor .textEnd)
  | 'b' => some (.wordEdge .either)
  | 'B' => some (.wordEdge .neither)
  | '<' => some (.wordEdge .wordStart)
  | '>' => some (.wordEdge .wordEnd)
  | 'a' => some (.literal { char := '\x07' })
  | 'f' => some (.literal { char := '\x0c' })
  | 'n' => some (.literal { char := '\n' })
  | 'r' => some (.literal { char := '\r' })
  | 't' => some (.literal { char := '\t' })
  | 'v' => some (.literal { char := '\x0b' })
  | c => if isEscapable c then some (.literal { char := c }) else none

/-- The number of digits behind a letter that gives a character by number. -/
def digitCount? (c : Char) : Option Nat :=
  match c with
  | 'x' => some 2
  | 'u' => some 4
  | 'U' => some 8
  | _ => none

/-- Reads hexadecimal digits behind others of a value. -/
def readDigits (spaced : Bool) : Nat → Nat → List Char → Option (Nat × List Char)
  | 0, value, s => some (value, s)
  | count + 1, value, s =>
      match skip spaced s with
      | [] => none
      | c :: rest => do readDigits spaced count (16 * value + (← Text.hexDigit? c)) rest

def readEscape (spaced : Bool) : List Char → Option (Pattern × List Char)
  | [] => none
  | c :: rest =>
      match digitCount? c with
      | none => return (← escaped? c, rest)
      | some count => do
          let (value, rest) ← readDigits spaced count 0 rest
          return (.literal { char := ← Text.charOfNat? value, isByte := c == 'x' }, rest)

namespace EscapeWitness

example : skip true " # a\n#\tb".toList = [] ∧ skip true "\u00a0# a\n b".toList = "b".toList ∧
    skip false " b".toList = " b".toList := by decide +kernel

example : (readEscape false "x41".toList).map (·.2) = some [] ∧
    (readEscape false "x4 1".toList).isNone = true ∧
    (readEscape true "x 4 1".toList).isSome = true ∧
    (readEscape false "ud800".toList).isNone = true := by decide +kernel

example : (readEscape true " ".toList).isSome = true ∧ (readEscape true "<".toList).isSome = true ∧
    (readEscape true "1".toList).isNone = true ∧ (readEscape true "p".toList).isNone = true ∧
    (readEscape true "\u00e9".toList).isNone = true := by decide +kernel

end EscapeWitness

end Logbook.Pattern
