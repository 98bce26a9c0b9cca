/-
Typed reading of JSON trees.  A reader takes a tree to a value or to the first thing that is
wrong with it, in the order of the text.  A structure is read from an object, whose members may
come in any order and among unknown ones, or from an array of its fields in their order.
-/
import Logbook.Json.Tree

namespace Logbook.Json

/-- A way to read a value. -/
abbrev Reader (α : Type) := Tree → Except Error α

namespace Reader

variable {α : Type}

/-- Refuses a value of another kind. -/
def mismatch (expected : String) (tree : Tree) : Except Error α := do
  let found ← tree.found
  .error (.mistaken (.wrongType found expected))

/-- Reads a natural number of at most `limit`. -/
def unsigned (limit : Nat) (expected : String) : Reader Nat
  | .number n => do
      match ← n.value with
      | .natural k =>
          if k ≤ limit then .ok k else .error (.mistaken (.outOfRange k expected))
      | .negative k => .error (.mistaken (.outOfRange (-k) expected))
      | .real x => .error (.mistaken (.wrongType (.number (.real x)) expected))
  | tree => mismatch expected tree

/-- Reads a natural number of one byte. -/
def byte : Reader Nat :=
  unsigned 255 "u8"

/-- Reads a natural number of four bytes. -/
def word : Reader UInt32 := fun tree =>
  (unsigned 0xffffffff "u32" tree).map Nat.toUInt32

/-- Reads a whole number of eight bytes. -/
def long : Reader Int64
  | .number n => do
      match ← n.value with
      | .natural k =>
          if k < 0x8000000000000000 then .ok (Int64.ofNat k)
          else .error (.mistaken (.outOfRange k "i64"))
      | .negative k => .ok (Int64.ofInt (-k))
      | .real x => .error (.mistaken (.wrongType (.number (.real x)) "i64"))
  | tree => mismatch "i64" tree

def text : Reader String
  | .string s => s.map String.ofList
  | tree => mismatch "a string" tree

def boolean : Reader Bool
  | .boolean b => .ok b
  | tree => mismatch "a boolean" tree

def levelOrdinal : Reader Level := fun tree => do
  let n ← byte tree
  match Level.ofOrdinal? n with
  | some level => .ok level
  | none => .error (.mistaken (.noSuchOrdinal n))

def levelName : Reader Level := fun tree => do
  match Level.parse (← text tree) with
  | .ok level => .ok level
  | .error unknown => .error (.mistaken (.unknownLevel unknown))

end Reader

/-- A field of a structure whose parts, present or not, are gathered in a `σ`. -/
structure Field (σ : Type) where
  name : String
  isSet : σ → Bool
  read : Tree → σ → Except Error σ

/-- A field with a place in the gathered parts. -/
def Field.of {σ α : Type} (name : String) (get : σ → Option α) (set : σ → Option α → σ)
    (reader : Reader α) : Field σ where
  name := name
  isSet parts := (get parts).isSome
  read tree parts := (reader tree).map fun value => set parts (some value)

/-- What to say about an absent field, given its position and its name. -/
abbrev Absence := Nat → String → Error

/-- How to read a structure `α` from parts `σ`. -/
structure Shape (σ α : Type) where
  name : String
  fields : List (Field σ)
  empty : σ
  build : Absence → σ → Except Error α

namespace Shape

variable {σ α : Type}

/-- Takes a member of an object.  A known field may come once; an unknown one is passed over. -/
def takeMember (shape : Shape σ α) (parts : σ) (member : StringText × Tree) :
    Except Error σ := do
  let key ← member.1
  match shape.fields.find? (·.name == String.ofList key) with
  | some field =>
      if field.isSet parts then .error (.mistaken (.duplicateField field.name))
      else field.read member.2 parts
  | none =>
      member.2.skip
      .ok parts

/-- Takes the items of an array, one for each field in turn.  A field without an item is absent;
an item without a field is a mistake of form. -/
def takeItems (ending : Ending) : List (Field σ) → List Tree → σ → Except Error σ
  | [], [], parts =>
      match ending with
      | .closed => .ok parts
      | .broken problem afterComma => .error (if afterComma then .malformed else problem.read)
  | [], _ :: _, _ => .error .malformed
  | _ :: _, [], parts =>
      match ending with
      | .closed => .ok parts
      | .broken problem _ => .error problem.read
  | field :: fields, tree :: trees, parts => do
      let parts ← field.read tree parts
      takeItems ending fields trees parts

/-- What an array too short for the structure is told. -/
def lengthExpectation (shape : Shape σ α) : String :=
  let n := shape.fields.length
  "struct " ++ shape.name ++ " with " ++ toString n ++ (if n = 1 then " element" else " elements")

def read (shape : Shape σ α) : Reader α
  | .object members ending => do
      let parts ← members.foldlM shape.takeMember shape.empty
      match ending with
      | .closed => shape.build (fun _ name => .mistaken (.missingField name)) parts
      | .broken problem _ => .error problem.read
  | .array items ending => do
      let parts ← takeItems ending shape.fields items shape.empty
      shape.build (fun i _ => .mistaken (.wrongLength i shape.lengthExpectation)) parts
  | tree => Reader.mismatch ("struct " ++ shape.name) tree

end Shape

/-- Reads a whole text as one value. -/
def Reader.ofText {α : Type} (reader : Reader α) (text : String) : Except Error α := do
  let document := Document.ofText text
  let value ← reader document.root
  if document.surplus then .error .malformed else .ok value

end Logbook.Json
