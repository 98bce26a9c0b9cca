/-
Trees of settings.  Sources of settings are laid over each other: tables are merged key by key,
and every other value replaces what was below it.  A value remembers where it came from, which
shows in complaints.
-/
import Logbook.Members
import Logbook.Number.Binary
import Logbook.Settings.KeyPath

namespace Logbook.Settings

/-- Where a value came from. -/
inductive Origin where
  | unnamed
  | file (name : String)
  | environment
  deriving DecidableEq, Repr

/-- A value without parts.  Natural numbers are those too great for a sign in 64 bits. -/
inductive Leaf where
  | null
  | boolean (b : Bool)
  | integer (i : Int)
  | natural (n : Nat)
  | real (x : Binary)
  | text (s : String)
  deriving DecidableEq, Repr

/-- A tree of settings. -/
inductive Node where
  | leaf (origin : Origin) (value : Leaf)
  | list (origin : Origin) (items : List Node)
  | table (origin : Origin) (members : List (String × Node))

namespace Node

/-- A value that nobody gave. -/
def absent : Node := .leaf .unnamed .null

/-- The table below a place, empty where there is none. -/
def tableBelow : Option Node → Origin × Members Node
  | some (.table origin members) => (origin, members)
  | _ => (.unnamed, [])

/-- The list below a place, empty where there is none. -/
def listBelow : Option Node → Origin × List Node
  | some (.list origin items) => (origin, items)
  | _ => (.unnamed, [])

mutual

/-- A value laid over what is below it. -/
def layOver (below : Option Node) : Node → Node
  | .leaf origin value => .leaf origin value
  | .list origin items => .list origin items
  | .table _ members =>
      let (origin, base) := tableBelow below
      .table origin (layMembers base members)

/-- Members laid over others, one after the other. -/
def layMembers (base : Members Node) : List (String × Node) → Members Node
  | [] => base
  | (key, value) :: rest => layMembers (base.put key (layOver (base.get? key) value)) rest

end

/-- A list in which a position exists, and the position counted from its start.  The list grows
at its end, or at its start when the position lies before it. -/
def reach (items : List Node) (i : Int) : List Node × Nat :=
  if 0 ≤ i then
    (items ++ List.replicate (i.toNat + 1 - items.length) absent, i.toNat)
  else if i.natAbs ≤ items.length then (items, items.length - i.natAbs)
  else (List.replicate (i.natAbs - items.length) absent ++ items, 0)

/-- Lays a value over what is at the end of some steps.  What is on the way and cannot be gone
into is replaced. -/
def setAt (value : Node) : List Step → Option Node → Node
  | [], below => layOver below value
  | .key name :: steps, below =>
      let (origin, members) := tableBelow below
      .table origin (members.put name (setAt value steps (members.get? name)))
  | .index i :: steps, below =>
      let (origin, items) := listBelow below
      let (items, position) := reach items i
      .list origin (items.set position (setAt value steps items[position]?))

/-- Lays a source over a table, each key read as a path. -/
def layer (base : Members Node) (source : List (String × Node)) : Members Node :=
  source.foldl (fun base (key, value) =>
    let path := KeyPath.ofKey key
    base.put path.root (setAt value path.steps (base.get? path.root))) base

end Node

end Logbook.Settings
