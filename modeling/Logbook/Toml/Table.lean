/-
The tables of a TOML document, built line by line.  A table remembers how it came about, since
that decides which later lines may add to it: a header opens a table once, keys with points in
them take over the tables that have no header yet, and an inline table is complete.
-/
import Logbook.Members
import Logbook.Toml.Line

namespace Logbook.Toml

/-- How a table came about. -/
inductive TableKind where
  /-- On the way to another table. -/
  | implied
  /-- By its own header. -/
  | headed
  /-- By the points in a key, or on the way to another table but later named in such a key. -/
  | dotted
  /-- Between braces. -/
  | inline
  deriving DecidableEq, Repr

/-- A value of a document. -/
inductive Value where
  | scalar (s : Scalar)
  | array (items : List Value)
  /-- The tables that headers of entries made, last first. -/
  | entries (tables : List (TableKind × List (String × Value)))
  | table (kind : TableKind) (members : List (String × Value))

/-- A table: how it came about, and its members. -/
abbrev Table := TableKind × Members Value

namespace Table

def get? (table : Table) (key : String) : Option Value :=
  table.2.get? key

/-- The table with another value for a key. -/
def put (table : Table) (key : String) (value : Value) : Table :=
  (table.1, table.2.put key value)

/-- Changes the table at the end of a path.  Tables that are missing on the way are made; `dotted`
tells whether the path stands in a key, which takes over the tables on its way, or in a header. -/
def update (dotted : Bool) (change : Table → Option Table) : Path → Table → Option Table
  | [], table => change table
  | key :: path, table =>
      match table.get? key with
      | none => do
          let kind := if dotted then TableKind.dotted else .implied
          let (kind, members) ← update dotted change path (kind, [])
          return table.put key (.table kind members)
      | some (.table kind members) =>
          if kind = .inline ∨ (dotted ∧ kind = .headed) then none
          else do
            let kind := if dotted then TableKind.dotted else kind
            let (kind, members) ← update dotted change path (kind, members)
            return table.put key (.table kind members)
      | some (.entries (last :: before)) => do
          let last ← update dotted change path last
          return table.put key (.entries (last :: before))
      | some _ => none

/-- Adds a value to the table it belongs to.  A key with points makes or extends tables of its
own kind only, and a key without them extends none of those. -/
def addMember (dotted : Bool) (key : String) (value : Value) (table : Table) : Option Table :=
  if decide (table.1 = .dotted) == dotted && (table.get? key).isNone then
    some (table.put key value)
  else none

/-- The keys before the last of a path, and the last. -/
def splitPath? (path : Path) : Option (Path × String) :=
  path.getLast?.map (path.dropLast, ·)

def addSetting (path : Path) (value : Value) (table : Table) : Option Table := do
  let (way, key) ← splitPath? path
  let dotted := !way.isEmpty
  update dotted (addMember dotted key value) way table

def openHeader (path : Path) (table : Table) : Option Table := do
  let (way, key) ← splitPath? path
  let openAt (table : Table) : Option Table :=
    match table.get? key with
    | none => some (table.put key (.table .headed []))
    | some (.table .implied members) => some (table.put key (.table .headed members))
    | some _ => none
  update false openAt way table

/-- Opens one more table in an array by the header of an entry. -/
def openEntry (path : Path) (table : Table) : Option Table := do
  let (way, key) ← splitPath? path
  let openAt (table : Table) : Option Table :=
    match table.get? key with
    | none => some (table.put key (.entries [(.headed, [])]))
    | some (.entries tables) => some (table.put key (.entries ((.headed, []) :: tables)))
    | some _ => none
  update false openAt way table

def addSettings (table : Table) : List (Path × Value) → Option Table
  | [] => some table
  | (path, value) :: rest => do
      let table ← addSetting path value table
      addSettings table rest

end Table

mutual

def Term.value : Term → Option Value
  | .scalar s => some (.scalar s)
  | .array items => do return .array (← termValues items)
  | .table members => do
      let (_, members) ← Table.addSettings (.inline, []) (← memberValues members)
      return .table .inline members

def termValues : List Term → Option (List Value)
  | [] => some []
  | term :: rest => do
      let value ← term.value
      return value :: (← termValues rest)

def memberValues : List (Path × Term) → Option (List (Path × Value))
  | [] => some []
  | (path, term) :: rest => do
      let value ← term.value
      return (path, value) :: (← memberValues rest)

end

/-- A document that is read up to a line: its tables, and the path of the open one. -/
structure Outline where
  root : Table
  current : Path

def Outline.takeLine (outline : Outline) : Line → Option Outline
  | .setting path term => do
      let value ← term.value
      let root ← Table.update false (Table.addSetting path value) outline.current outline.root
      return { outline with root }
  | .header path => do return ⟨← Table.openHeader path outline.root, path⟩
  | .entryHeader path => do return ⟨← Table.openEntry path outline.root, path⟩

def Table.ofText? (text : String) : Option Table := do
  let lines ← Line.ofText? text
  let outline ← lines.foldlM Outline.takeLine ⟨(.headed, []), []⟩
  return outline.root

namespace TableWitness

/-- A text is the text of a document. -/
def accepts (text : String) : Bool :=
  (Table.ofText? text).isSome

example : accepts "a.b = 1\na.c = [1, \x7b d.e = 2, d.f = 3, \x7d,]\n[t]\n[[u]]\n[u.v]\n[[u]]" =
    true := by cbv

example : accepts "[a.b.c]\n[a]\nb.d = 1\n[a.b.e]" = true ∧
    accepts "[a.b.c]\n[a]\nb.d = 1\n[a.b]" = false := by cbv

example : accepts "a = \x7b b # c\r\n = \n 1 \x7d" = true ∧ accepts "a\n = 1" = false := by cbv

example : accepts "a.b = 1\n[a]" = false := by cbv

example : accepts "a = \x7bb = 1\x7d\na.c = 1" = false := by cbv

example : accepts "[a]\n[b]\n[a.c]\n[a]" = false ∧ accepts "[a.c]\n[b]\n[a]" = true := by cbv

example : accepts "a = 1 2" = false ∧ accepts "a = \r1" = false ∧ accepts "[ [a]]" = false := by
  cbv

end TableWitness

end Logbook.Toml
