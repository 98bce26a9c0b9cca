/-
Characters by number.  Texts of several kinds give a character by hexadecimal digits, in capitals
or not; surrogates and numbers past the last plane are those of no character.
-/
namespace Logbook.Text

def hexDigit? (c : Char) : Option Nat :=
  if '0' ≤ c ∧ c ≤ '9' then some (c.toNat - '0'.toNat)
  else if 'a' ≤ c ∧ c ≤ 'f' then some (c.toNat - 'a'.toNat + 10)
  else if 'A' ≤ c ∧ c ≤ 'F' then some (c.toNat - 'A'.toNat + 10)
  else none

/-- The character with a number, unless the number is none of a character. -/
def charOfNat? (n : Nat) : Option Char :=
  if n.isValidChar then some (Char.ofNat n) else none

namespace HexadecimalWitness

example : hexDigit? '9' = some 9 ∧ hexDigit? 'c' = some 12 ∧ hexDigit? 'C' = some 12 ∧
    hexDigit? 'g' = none := by decide +kernel

example : charOfNat? 0xd7ff = some '\ud7ff' ∧ charOfNat? 0xd800 = none ∧
    charOfNat? 0x110000 = none := by decide +kernel

end HexadecimalWitness

end Logbook.Text
