/-
The lines of a TOML document: settings, headers of tables and headers of array entries.  Values
are still as they were written, so an inline table holds settings with paths of their own.  In
arrays and inline tables a line may end wherever a blank may stand, but not inside a path.

The lines are read by one step for each token, and the state holds the containers around the
place where the reading stands, innermost first.
-/
import Logbook.Toml.Scalar
import Logbook.Toml.Token

namespace Logbook.Toml

/-- The keys on the way to a value. -/
abbrev Path := List String

/-- A value as it is written. -/
inductive Term where
  | scalar (s : Scalar)
  | array (items : List Term)
  | table (members : List (Path × Term))

/-- What a line says. -/
inductive Line where
  | setting (path : Path) (term : Term)
  | header (path : Path)
  | entryHeader (path : Path)

/-- A part of a path as it is written. -/
inductive PathPart where
  | key (k : String)
  | point
  deriving DecidableEq, Repr

namespace PathPart

/-- A character of a key without quotes. -/
def isBare (c : Char) : Bool :=
  c.isAlphanum || c == '_' || c == '-'

/-- The part that a piece of a word makes; next to a quoted key it may be empty. -/
def ofPiece? (piece : List Char) : Option (List PathPart) :=
  if piece.isEmpty then some []
  else if piece.all isBare then some [.key (String.ofList piece)] else none

/-- The parts of pieces of a word, with a point between any two of them. -/
def ofPieces? : List (List Char) → Option (List PathPart)
  | [] => some []
  | [piece] => ofPiece? piece
  | piece :: more => do
      let parts ← ofPiece? piece
      return parts ++ .point :: (← ofPieces? more)

def ofWord? (s : List Char) : Option (List PathPart) :=
  ofPieces? (Text.pieces (· == '.') s)

/-- The path with given parts: keys with single points between them. -/
def path? : List PathPart → Option Path
  | [.key k] => some [k]
  | .key k :: .point :: rest => (path? rest).map (k :: ·)
  | _ => none

/-- The parts of a token that may stand in a path, in which blanks do not count. -/
def ofToken? : Token → Option (List PathPart)
  | .word s => ofWord? s
  | .quoted s => some [.key s]
  | .space => some []
  | _ => none

end PathPart

/-- The containers around a place, with what they hold so far, last first. -/
inductive Context where
  | line (path : Path)
  | item (before : List Term) (outer : Context)
  | member (before : List (Path × Term)) (path : Path) (outer : Context)

/-- Whose path is being read. -/
inductive PathOwner where
  | line
  | member (before : List (Path × Term)) (outer : Context)

/-- Where the reading stands. -/
inductive Place where
  /-- Before a line. -/
  | lineStart
  /-- Behind all that a line may hold. -/
  | lineEnd
  /-- Right behind the first bracket of a line. -/
  | headerStart
  /-- In the path of a header. -/
  | header (entry : Bool) (parts : List PathPart)
  /-- Right behind the first closing bracket of the header of an entry. -/
  | entryHeaderEnd (path : Path)
  /-- In the path of a setting. -/
  | path (owner : PathOwner) (parts : List PathPart)
  /-- On a later line behind the path of a member of an inline table. -/
  | equalsDue (context : Context)
  /-- Before a value, or in an array before its end. -/
  | value (context : Context)
  /-- Behind an item of an array. -/
  | afterItem (items : List Term) (outer : Context)
  /-- Before a member of an inline table, or before its end. -/
  | memberStart (before : List (Path × Term)) (outer : Context)
  /-- Behind a member of an inline table. -/
  | afterMember (members : List (Path × Term)) (outer : Context)

/-- The lines read so far, last first, and where the reading stands. -/
structure Reading where
  lines : List Line
  place : Place

/-- Values and paths may have this many levels. -/
def depthLimit : Nat := 80

namespace Context

/-- The number of containers around a place. -/
def depth : Context → Nat
  | .line _ => 0
  | .item _ outer => outer.depth + 1
  | .member _ _ outer => outer.depth + 1

/-- One more container may be opened. -/
def hasRoom (context : Context) : Bool :=
  decide (context.depth < depthLimit)

end Context

namespace Reading

def goTo (reading : Reading) (place : Place) : Option Reading :=
  some { reading with place }

def endLine (reading : Reading) (line : Line) : Option Reading :=
  some ⟨line :: reading.lines, .lineEnd⟩

def put (reading : Reading) (term : Term) : Context → Option Reading
  | .line path => reading.endLine (.setting path term)
  | .item before outer => reading.goTo (.afterItem (term :: before) outer)
  | .member before path outer => reading.goTo (.afterMember ((path, term) :: before) outer)

/-- The path with given parts, last first, if it is not too long. -/
def endPath? (parts : List PathPart) : Option Path := do
  let path ← PathPart.path? parts.reverse
  if path.length ≤ depthLimit then some path else none

def takePart (parts : List PathPart) (token : Token) : Option (List PathPart) :=
  (PathPart.ofToken? token).map (·.reverse ++ parts)

/-- The context of a value with a path. -/
def contextOf (path : Path) : PathOwner → Context
  | .line => .line path
  | .member before outer => .member before path outer

/-- Takes a token where a value is due. -/
def stepValue (reading : Reading) (context : Context) : Token → Option Reading
  | .space => reading.goTo (.value context)
  | .newline =>
      match context with
      | .line _ => none
      | _ => reading.goTo (.value context)
  | .word s => do reading.put (.scalar (← Scalar.ofWord? s)) context
  | .quoted s => reading.put (.scalar (.string s)) context
  | .block s => reading.put (.scalar (.string s)) context
  | .openBracket => if context.hasRoom then reading.goTo (.value (.item [] context)) else none
  | .openBrace => if context.hasRoom then reading.goTo (.memberStart [] context) else none
  | .closeBracket =>
      match context with
      | .item before outer => reading.put (.array before.reverse) outer
      | _ => none
  | _ => none

/-- Takes a token in the path of a header. -/
def stepHeader (reading : Reading) (entry : Bool) (parts : List PathPart) (token : Token) :
    Option Reading :=
  match token with
  | .closeBracket => do
      let path ← endPath? parts
      if entry then reading.goTo (.entryHeaderEnd path) else reading.endLine (.header path)
  | token => do reading.goTo (.header entry (← takePart parts token))

def step (reading : Reading) (token : Token) : Option Reading :=
  match reading.place, token with
  | .lineStart, .space => some reading
  | .lineStart, .newline => some reading
  | .lineStart, .openBracket => reading.goTo .headerStart
  | .lineStart, token => do reading.goTo (.path .line (← takePart [] token))
  | .lineEnd, .space => some reading
  | .lineEnd, .newline => reading.goTo .lineStart
  | .lineEnd, _ => none
  | .headerStart, .openBracket => reading.goTo (.header true [])
  | .headerStart, token => reading.stepHeader false [] token
  | .header entry parts, token => reading.stepHeader entry parts token
  | .entryHeaderEnd path, .closeBracket => reading.endLine (.entryHeader path)
  | .entryHeaderEnd _, _ => none
  | .path owner parts, .equals => do
      reading.goTo (.value (contextOf (← endPath? parts) owner))
  | .path (.member before outer) parts, .newline => do
      reading.goTo (.equalsDue (.member before (← endPath? parts) outer))
  | .path owner parts, token => do reading.goTo (.path owner (← takePart parts token))
  | .equalsDue _, .space => some reading
  | .equalsDue _, .newline => some reading
  | .equalsDue context, .equals => reading.goTo (.value context)
  | .equalsDue _, _ => none
  | .value context, token => reading.stepValue context token
  | .afterItem _ _, .space => some reading
  | .afterItem _ _, .newline => some reading
  | .afterItem items outer, .comma => reading.goTo (.value (.item items outer))
  | .afterItem items outer, .closeBracket => reading.put (.array items.reverse) outer
  | .afterItem _ _, _ => none
  | .memberStart _ _, .space => some reading
  | .memberStart _ _, .newline => some reading
  | .memberStart before outer, .closeBrace => reading.put (.table before.reverse) outer
  | .memberStart before outer, token => do
      reading.goTo (.path (.member before outer) (← takePart [] token))
  | .afterMember _ _, .space => some reading
  | .afterMember _ _, .newline => some reading
  | .afterMember members outer, .comma => reading.goTo (.memberStart members outer)
  | .afterMember members outer, .closeBrace => reading.put (.table members.reverse) outer
  | .afterMember _ _, _ => none

/-- The lines, if no line is left unfinished. -/
def finish (reading : Reading) : Option (List Line) :=
  match reading.place with
  | .lineStart => some reading.lines.reverse
  | .lineEnd => some reading.lines.reverse
  | _ => none

end Reading

/-- Reads a document.  A mark of the encoding in front of it does not count. -/
def Line.ofText? (text : String) : Option (List Line) := do
  let tokens ← lex (Text.dropMark text.toList)
  let reading ← tokens.foldlM Reading.step ⟨[], .lineStart⟩
  reading.finish

end Logbook.Toml
