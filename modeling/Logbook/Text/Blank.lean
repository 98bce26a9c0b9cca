/-
Blank characters.  The names of levels and colours may stand between any blanks, so trimming
uses the whole Unicode property White_Space and not only the blanks of ASCII.
-/
namespace Logbook.Text

/-- Membership of a character in a list of inclusive code point ranges. -/
def inRanges (ranges : List (Nat × Nat)) (c : Char) : Bool :=
  ranges.any fun range => range.1 ≤ c.toNat && c.toNat ≤ range.2

/-- The code points with the property White_Space. -/
def blankRanges : List (Nat × Nat) :=
  [(0x9, 0xd), (0x20, 0x20), (0x85, 0x85), (0xa0, 0xa0), (0x1680, 0x1680), (0x2000, 0x200a),
   (0x2028, 0x2029), (0x202f, 0x202f), (0x205f, 0x205f), (0x3000, 0x3000)]

/-- A character with the property White_Space. -/
def isBlank (c : Char) : Bool :=
  inRanges blankRanges c

/-- Drops the blanks at the end of a text. -/
def trimEnd (s : List Char) : List Char :=
  (s.reverse.dropWhile isBlank).reverse

/-- Drops the blanks at both ends of a text. -/
def trimChars (s : List Char) : List Char :=
  trimEnd (s.dropWhile isBlank)

/-- The text without the blanks at its ends. -/
def trim (s : String) : String :=
  String.ofList (trimChars s.toList)

/-- The text with the capitals of ASCII in lower case; every other character stays. -/
def asciiLower (s : String) : String :=
  String.ofList (s.toList.map Char.toLower)

/-- A name as it is compared: without blanks at its ends and with ASCII capitals folded. -/
def foldName (s : String) : String :=
  asciiLower (trim s)

namespace BlankWitness

example : foldName "\u00a0 WaRn\u3000\n" = "warn" := by decide +kernel

/-- The Kelvin sign folds to a letter of ASCII only under full case folding. -/
example : asciiLower "\u212a" = "\u212a" := by decide +kernel

end BlankWitness

end Logbook.Text
