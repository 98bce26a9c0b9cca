/-
Patterns of texts.  A pattern is made of characters and sets of characters, which stand behind
each other, are a choice, are repeated, or are put in groups; a flag changes the meaning of what
comes after it, up to the end of its group.

A pattern may be nested only so deep, where every part that holds others counts.
-/
namespace Logbook

namespace Pattern

/-- What a flag turns on or off. -/
inductive Flag where
  | ignoreCase
  /-- The edges of lines count as edges of the text. -/
  | multiline
  /-- The dot stands for a line feed too. -/
  | dotAll
  /-- Repetitions take as little as they can. -/
  | swapGreed
  /-- Characters are those of all scripts, and not bytes. -/
  | unicode
  /-- A carriage return ends lines too. -/
  | carriageReturn
  /-- Blanks and comments count for nothing. -/
  | spaced
  deriving DecidableEq, Repr

/-- Flags that are turned on or off. -/
abbrev FlagChange := List (Flag × Bool)

/-- What becomes of a flag that may or may not change. -/
def FlagChange.apply (change : FlagChange) (flag : Flag) (before : Bool) : Bool :=
  (change.lookup flag).getD before

/-- A character that stands for itself. -/
structure Literal where
  char : Char
  /-- It is given as a byte, by two digits. -/
  isByte : Bool := false
  deriving DecidableEq, Repr

/-- A set of characters with a short name. -/
inductive Shorthand where
  | digit
  | blank
  | word
  deriving DecidableEq, Repr

/-- A set of ASCII with a name. -/
inductive AsciiSet where
  | alnum
  | alpha
  | ascii
  | blank
  | cntrl
  | digit
  | graph
  | lower
  | print
  | punct
  | space
  | upper
  | word
  | xdigit
  deriving DecidableEq, Repr

/-- How two sets make a third. -/
inductive SetOperation where
  | intersection
  | difference
  | symmetricDifference
  deriving DecidableEq, Repr

/-- A set of characters as it stands between brackets. -/
inductive CharSet where
  | empty
  | literal (literal : Literal)
  | range (first last : Literal)
  | ascii (name : AsciiSet) (negated : Bool)
  | shorthand (name : Shorthand) (negated : Bool)
  | brackets (negated : Bool) (inner : CharSet)
  | union (parts : List CharSet)
  | combined (operation : SetOperation) (left right : CharSet)

/-- An edge of a line or of the text. -/
inductive Anchor where
  | lineStart
  | lineEnd
  | textStart
  | textEnd
  deriving DecidableEq, Repr

/-- A place at the edge of a word, or at none. -/
inductive WordEdge where
  | either
  | neither
  | wordStart
  | wordEnd
  deriving DecidableEq, Repr

/-- How often a part is repeated. -/
inductive Repetition where
  | zeroOrOne
  | zeroOrMore
  | oneOrMore
  deriving DecidableEq, Repr

/-- What a group is for. -/
inductive GroupKind where
  | numbered
  | named (name : String)
  /-- It only changes flags. -/
  | flagged (change : FlagChange)
  deriving DecidableEq, Repr

end Pattern

inductive Pattern where
  | empty
  | flags (change : Pattern.FlagChange)
  | literal (literal : Pattern.Literal)
  | dot
  | anchor (edge : Pattern.Anchor)
  | wordEdge (edge : Pattern.WordEdge)
  | shorthand (name : Pattern.Shorthand) (negated : Bool)
  | brackets (negated : Bool) (inner : Pattern.CharSet)
  | repeated (count : Pattern.Repetition) (lazy : Bool) (part : Pattern)
  | group (kind : Pattern.GroupKind) (part : Pattern)
  | sequence (parts : List Pattern)
  | choice (branches : List Pattern)

namespace Pattern

namespace CharSet

/-- The set of what is in any of some sets. -/
def ofParts : List CharSet → CharSet
  | [] => .empty
  | [part] => part
  | parts => .union parts

mutual

/-- How deep a set is nested. -/
def depth : CharSet → Nat
  | .brackets _ inner => inner.depth + 1
  | .union parts => depthOfParts parts + 1
  | .combined _ left right => max left.depth right.depth + 1
  | _ => 0

/-- How deep the deepest of some sets is nested. -/
def depthOfParts : List CharSet → Nat
  | [] => 0
  | part :: rest => max part.depth (depthOfParts rest)

end

end CharSet

/-- Some patterns behind each other. -/
def ofParts : List Pattern → Pattern
  | [] => .empty
  | [part] => part
  | parts => .sequence parts

/-- A choice of some patterns. -/
def ofBranches : List Pattern → Pattern
  | [branch] => branch
  | branches => .choice branches

def GroupKind.name? : GroupKind → Option String
  | .named name => some name
  | _ => none

mutual

/-- How deep a pattern is nested. -/
def depth : Pattern → Nat
  | .brackets _ inner => inner.depth + 1
  | .repeated _ _ part => part.depth + 1
  | .group _ part => part.depth + 1
  | .sequence parts => depthOfParts parts + 1
  | .choice branches => depthOfParts branches + 1
  | _ => 0

/-- How deep the deepest of some patterns is nested. -/
def depthOfParts : List Pattern → Nat
  | [] => 0
  | part :: rest => max part.depth (depthOfParts rest)

end

mutual

/-- The names of the groups of a pattern, in order. -/
def groupNames : Pattern → List String
  | .repeated _ _ part => part.groupNames
  | .group kind part => kind.name?.toList ++ part.groupNames
  | .sequence parts => groupNamesOfParts parts
  | .choice branches => groupNamesOfParts branches
  | _ => []

/-- The names of the groups of some patterns, in order. -/
def groupNamesOfParts : List Pattern → List String
  | [] => []
  | part :: rest => part.groupNames ++ groupNamesOfParts rest

end

end Pattern

end Logbook
