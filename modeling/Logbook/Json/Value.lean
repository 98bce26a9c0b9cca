/-
JSON values and their compact text.  The text is made of pieces, one for each time it is handed
to a writer, since a writer may fail between any two of them.
-/
import Logbook.Json.Number
import Logbook.Text.Quoted

namespace Logbook.Json

/-- A JSON value. -/
inductive Value where
  | null
  | boolean (b : Bool)
  | number (n : NumberText)
  | string (s : List Char)
  | array (items : List Value)
  | object (members : List (List Char × Value))

/-- The escape of a character that may not stand in a string as it is. -/
def escape? (c : Char) : Option (List Char) :=
  match c with
  | '"' => some ['\\', '"']
  | '\\' => some ['\\', '\\']
  | '\x08' => some ['\\', 'b']
  | '\x0c' => some ['\\', 'f']
  | '\n' => some ['\\', 'n']
  | '\r' => some ['\\', 'r']
  | '\t' => some ['\\', 't']
  | c =>
      if c.toNat < 0x20 then
        some ['\\', 'u', '0', '0', (c.toNat / 16).digitChar, (c.toNat % 16).digitChar]
      else none

/-- A piece for the characters that stand as they are, unless there are none. -/
def plainPiece (plain : List Char) : List (List Char) :=
  if plain.isEmpty then [] else [plain.reverse]

/-- The pieces of the inside of a string: runs of characters that stand as they are, and escapes.
`plain` is the run so far, last character first. -/
def stringPieces (plain : List Char) : List Char → List (List Char)
  | [] => plainPiece plain
  | c :: rest =>
      match escape? c with
      | some escape => plainPiece plain ++ escape :: stringPieces [] rest
      | none => stringPieces (c :: plain) rest

/-- The pieces of a string with its quotes. -/
def quotedPieces (s : List Char) : List (List Char) :=
  ['"'] :: stringPieces [] s ++ [['"']]

def NumberText.chars (t : NumberText) : List Char :=
  (if t.negative then ['-'] else []) ++ t.whole.map Nat.digitChar ++
    (match t.fraction with
      | none => []
      | some digits => '.' :: digits.map Nat.digitChar) ++
    (match t.exponent with
      | none => []
      | some e => 'e' :: (if e.negative then ['-'] else []) ++ e.digits.map Nat.digitChar)

namespace Value

mutual

def pieces : Value → List (List Char)
  | .null => [['n', 'u', 'l', 'l']]
  | .boolean true => [['t', 'r', 'u', 'e']]
  | .boolean false => [['f', 'a', 'l', 's', 'e']]
  | .number n => [n.chars]
  | .string s => quotedPieces s
  | .array items => ['['] :: itemPieces true items ++ [[']']]
  | .object members => ['\x7b'] :: memberPieces true members ++ [['\x7d']]

/-- The pieces of items, each but the first behind a comma. -/
def itemPieces (first : Bool) : List Value → List (List Char)
  | [] => []
  | value :: rest =>
      (if first then [] else [[',']]) ++ pieces value ++ itemPieces false rest

/-- The pieces of members, each but the first behind a comma. -/
def memberPieces (first : Bool) : List (List Char × Value) → List (List Char)
  | [] => []
  | (key, value) :: rest =>
      (if first then [] else [[',']]) ++ quotedPieces key ++ [[':']] ++ pieces value ++
        memberPieces false rest

end

def text (value : Value) : String :=
  String.ofList value.pieces.flatten

def ofString (s : String) : Value :=
  .string s.toList

def ofInt (i : Int) : Value :=
  .number (.ofInt i)

/-- An object with members of given names. -/
def ofMembers (members : List (String × Value)) : Value :=
  .object (members.map fun (name, value) => (name.toList, value))

end Value

end Logbook.Json
