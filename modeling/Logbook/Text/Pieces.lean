/-
Cutting a text at separators.  Some pieces may be empty, and the pieces with the separators
between them are the text again.
-/
namespace Logbook.Text

/-- The pieces of a text between the characters that separate. -/
def pieces (separates : Char → Bool) : List Char → List (List Char)
  | [] => [[]]
  | c :: rest =>
      if separates c then [] :: pieces separates rest
      else match pieces separates rest with
        | [] => [[c]]
        | first :: more => (c :: first) :: more

/-- The text without the mark that may stand in front of it. -/
def dropMark : List Char → List Char
  | '\ufeff' :: rest => rest
  | s => s

namespace PiecesWitness

example : pieces (· == '.') "a..b".toList = ["a".toList, [], "b".toList] := by decide +kernel

end PiecesWitness

end Logbook.Text
