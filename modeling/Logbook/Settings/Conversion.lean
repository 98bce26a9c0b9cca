/-
From trees of settings to settings.  Values convert freely: numbers and texts can be switches,
switches and numbers can be texts.  A section is a table of its fields or a list of them.
-/
import Logbook.Settings.Problem
import Logbook.Text.Lower

namespace Logbook.Settings

/-- A way to read a setting at a place. -/
abbrev Conversion (α : Type) := Place → Node → Except Problem α

namespace Node

/-- Where a value came from. -/
def origin : Node → Origin
  | .leaf origin _ => origin
  | .list origin _ => origin
  | .table origin _ => origin

end Node

namespace Conversion

variable {α β : Type}

/-- Refuses a value that does not convert. -/
def mismatch (expected : Expected) : Conversion α := fun place node =>
  .error (.unconvertible node.found expected place node.origin)

/-- The switch that a text names, in lower case. -/
def switch? : String → Option Bool
  | "true" => some true
  | "on" => some true
  | "yes" => some true
  | "false" => some false
  | "off" => some false
  | "no" => some false
  | _ => none

/-- The switch that a text names; here a digit is a name too. -/
def switchOrDigit? (s : String) : Option Bool :=
  if s = "1" then some true else if s = "0" then some false else switch? s

def boolean : Conversion Bool := fun place node =>
  match node with
  | .leaf _ (.boolean b) => .ok b
  | .leaf _ (.integer i) => .ok (i != 0)
  | .leaf _ (.natural n) => .ok (n != 0)
  | .leaf _ (.real x) => .ok !x.isZero
  | .leaf origin (.text s) =>
      let folded := Text.lower s
      match switchOrDigit? folded with
      | some b => .ok b
      | none => mismatch .boolean place (.leaf origin (.text folded))
  | node => mismatch .boolean place node

/-- The number that a text of decimal digits writes, with or without a plus in front. -/
def decimal? (s : String) : Option Nat :=
  let digits := match s.toList with
    | '+' :: rest => rest
    | all => all
  if digits.isEmpty || !digits.all Char.isDigit then none
  else
    let n := digits.foldl (fun n c => n * 10 + (c.toNat - '0'.toNat)) 0
    if n < 0x10000000000000000 then some n else none

/-- Reads a natural number of 64 bits. -/
def natural : Conversion Nat := fun place node =>
  match node with
  | .leaf _ (.boolean b) => .ok b.toNat
  | .leaf _ (.integer i) => if 0 ≤ i then .ok i.toNat else mismatch .natural place node
  | .leaf _ (.natural n) => .ok n
  | .leaf _ (.real x) => .ok (x.saturate 0xffffffffffffffff)
  | .leaf _ (.text s) =>
      match switch? (Text.lower s), decimal? s with
      | some b, _ => .ok b.toNat
      | none, some n => .ok n
      | none, none => mismatch .integer place node
  | node => mismatch .integer place node

/-- Reads a natural number of 32 bits.  What is too great is a number, wherever it came from. -/
def word : Conversion UInt32 := fun place node => do
  let n ← natural place node
  if n < 0x100000000 then return n.toUInt32
  else .error (.unconvertible (.leaf (.natural n)) .word place .unnamed)

def text : Conversion String := fun place node =>
  match node with
  | .leaf _ (.text s) => .ok s
  | .leaf _ (.boolean b) => .ok (toString b)
  | .leaf _ (.integer i) => .ok (toString i)
  | .leaf _ (.natural n) => .ok (toString n)
  | .leaf _ (.real x) => .ok (x.text .double .bare)
  | node => mismatch .text place node

def level : Conversion Level := fun place node => do
  match Level.parse (← text place node) with
  | .ok level => return level
  | .error unknown => .error (.refused (.unknownLevel unknown) place)

end Conversion

/-- A field of a section: its name, and what its value does to the section. -/
structure Field (σ : Type) where
  name : String
  read : Place → Node → σ → Except Problem σ

/-- A field that replaces a part of the section. -/
def Field.of {σ α : Type} (name : String) (conversion : Conversion α) (set : σ → α → σ) :
    Field σ where
  name := name
  read place node whole := (conversion place node).map (set whole)

/-- A section: its name, its fields, and what it is when no field is given. -/
structure Section (σ : Type) where
  name : String
  fields : List (Field σ)
  default : σ

namespace Section

variable {σ : Type}

/-- Reads the fields that a table has. -/
def readMembers (place : Place) (members : Members Node) :
    List (Field σ) → σ → Except Problem σ
  | [], value => .ok value
  | field :: rest, value => do
      let value ← match members.get? field.name with
        | some node => field.read (.key field.name :: place) node value
        | none => .ok value
      readMembers place members rest value

/-- Reads items as fields, in the order of the fields.  Surplus items do not count. -/
def readItems (place : Place) (position : Nat) :
    List (Field σ) → List Node → σ → Except Problem σ
  | field :: fields, node :: nodes, value => do
      let value ← field.read (.index position :: place) node value
      readItems place (position + 1) fields nodes value
  | _, _, value => .ok value

def read (s : Section σ) : Conversion σ := fun place node =>
  match node with
  | .table _ members => readMembers place members s.fields s.default
  | .list _ items => readItems place 0 s.fields items s.default
  | .leaf _ value => .error (.refused (.noSection (.leaf value) s.name) place)

end Section

end Logbook.Settings
