/-
Paths to settings.  A key of the environment and a key at the top of a file may name a setting
inside tables and lists, as in `logger.node_name` or `hosts[-1].name`; positions may be counted
from the end.
-/
import Logbook.Text.Pieces

namespace Logbook.Settings

/-- One step down. -/
inductive Step where
  | key (name : String)
  | index (i : Int)
  deriving DecidableEq, Repr

/-- A key at the top and the steps below it. -/
structure KeyPath where
  root : String
  steps : List Step
  deriving DecidableEq, Repr

namespace KeyPath

/-- A character of a name. -/
def isNameChar (c : Char) : Bool :=
  c.isAlphanum || c == '_' || c == '-'

/-- Positions are whole numbers of 64 bits. -/
def position? (s : List Char) : Option Int :=
  let (negative, digits) := match s with
    | '-' :: rest => (true, rest)
    | rest => (false, rest)
  if digits.isEmpty || !digits.all Char.isDigit then none
  else
    let n : Int := digits.foldl (fun n c => n * 10 + (c.toNat - '0'.toNat)) 0
    let i := if negative then -n else n
    if -0x8000000000000000 ≤ i ∧ i < 0x8000000000000000 then some i else none

/-- A position between blanks. -/
def paddedPosition? (s : List Char) : Option Int :=
  let isPadding (c : Char) : Bool := c == ' ' || c == '\t'
  position? ((s.dropWhile isPadding).reverse.dropWhile isPadding).reverse

/-- The name that a text is. -/
def name? (s : List Char) : Option String :=
  if !s.isEmpty && s.all isNameChar then some (String.ofList s) else none

/-- The positions that follow a name, given all that stands behind its first opening bracket. -/
def positions? (s : List Char) : Option (List Step) :=
  (Text.pieces (· == '[') s).mapM fun piece =>
    if piece.getLast? = some ']' then (paddedPosition? piece.dropLast).map .index else none

/-- A name with the positions behind it. -/
def segment? (s : List Char) : Option (String × List Step) := do
  let name ← name? (s.takeWhile (· != '['))
  match s.dropWhile (· != '[') with
  | [] => some (name, [])
  | _ :: rest => do return (name, ← positions? rest)

def ofText? (key : String) : Option KeyPath := do
  let segments ← (Text.pieces (· == '.') key.toList).mapM segment?
  match segments with
  | [] => none
  | (root, steps) :: rest =>
      some ⟨root, steps ++ rest.flatMap fun (name, steps) => .key name :: steps⟩

/-- The path that a key stands for.  A key that is no path stands for itself. -/
def ofKey (key : String) : KeyPath :=
  (ofText? key).getD ⟨key, []⟩

end KeyPath

namespace KeyPathWitness

example : KeyPath.ofKey "a.b-c[0][ -12 ].d" =
    ⟨"a", [.key "b-c", .index 0, .index (-12), .key "d"]⟩ := by decide +kernel

example : ["", ".a", "a.", "a b", "a[", "a[]", "a[0]b", "a]", "[0]", "a[0"].map KeyPath.ofText? =
    List.replicate 10 none := by decide +kernel

end KeyPathWitness

end Logbook.Settings
