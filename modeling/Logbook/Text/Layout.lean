/-
Layout of a short text in a column: cut to a number of characters, then filled to a width.
-/
namespace Logbook.Text

/-- Where a text stands in a column wider than itself. -/
inductive Alignment where
  | left
  | center
  | right
  deriving DecidableEq, Repr

/-- A column: its least width, the character that fills it, the side on which the text stands
and the number of characters that are kept. -/
structure Layout where
  alignment : Alignment := .left
  fill : Char := ' '
  width : Nat := 0
  keep : Option Nat := none
  deriving Repr

namespace Layout

/-- The number of fill characters before a text that leaves `free` places.  An odd place goes
behind a centred text. -/
def lead (layout : Layout) (free : Nat) : Nat :=
  match layout.alignment with
  | .left => 0
  | .center => free / 2
  | .right => free

/-- The text as the column shows it. -/
def apply (layout : Layout) (s : String) : String :=
  let kept := match layout.keep with
    | some n => s.toList.take n
    | none => s.toList
  let free := layout.width - kept.length
  let before := layout.lead free
  String.ofList (List.replicate before layout.fill ++ kept ++
    List.replicate (free - before) layout.fill)

end Layout

/-- The decimal digits of a number, with zeros in front up to `width` places. -/
def zeroPadded (width n : Nat) : String :=
  Layout.apply { alignment := .right, fill := '0', width := width } (toString n)

namespace LayoutWitness

example : Layout.apply { alignment := .center, fill := '*', width := 8 } "DEBUG" = "*DEBUG**" := by
  decide +kernel

example : Layout.apply { width := 5, keep := some 2 } "INFO" = "IN   " := by decide +kernel

example : zeroPadded 6 42 = "000042" ∧ zeroPadded 6 4294967295 = "4294967295" := by
  decide +kernel

end LayoutWitness

end Logbook.Text
