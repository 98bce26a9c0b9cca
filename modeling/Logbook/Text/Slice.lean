/-
Cutting a text at positions that count its bytes.  A position that was counted in another text
may lie inside a character, and there no text can be cut.
-/
namespace Logbook.Text

/-- The number of bytes of a text. -/
def byteLength (s : List Char) : Nat :=
  s.foldr (fun c n => c.utf8Size + n) 0

/-- The two parts of a text on both sides of a position. -/
def splitAtByte? : Nat → List Char → Option (List Char × List Char)
  | 0, s => some ([], s)
  | _ + 1, [] => none
  | n + 1, c :: rest =>
      if c.utf8Size ≤ n + 1 then
        (splitAtByte? (n + 1 - c.utf8Size) rest).map fun (before, behind) => (c :: before, behind)
      else none

/-- The part of a text behind a position. -/
def suffixAt? (start : Nat) (s : List Char) : Option (List Char) :=
  (splitAtByte? start s).map Prod.snd

/-- The part of a text behind a position that has a given number of bytes. -/
def slice? (start length : Nat) (s : List Char) : Option (List Char) := do
  let (part, _) ← splitAtByte? length (← suffixAt? start s)
  return part

namespace SliceWitness

example : slice? 2 1 "\u00e9=x".toList = some ['='] ∧ slice? 1 1 "\u00e9=x".toList = none := by
  decide +kernel

end SliceWitness

end Logbook.Text
