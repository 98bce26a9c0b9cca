/-
Reading patterns.  A group ends with its bracket and a choice with its group; the flag for blanks
and comments works while the pattern is read, so a group gives back the setting that was in force
in front of it.  The bounds of a repetition cannot be given by numbers.
-/
import Logbook.Pattern.Brackets
import Logbook.Text.Alphanumeric
import Logbook.Text.Pieces

namespace Logbook.Pattern

def Flag.ofLetter? (c : Char) : Option Flag :=
  match c with
  | 'i' => some .ignoreCase
  | 'm' => some .multiline
  | 's' => some .dotAll
  | 'U' => some .swapGreed
  | 'u' => some .unicode
  | 'R' => some .carriageReturn
  | 'x' => some .spaced
  | _ => none

namespace FlagChange

/-- The change that sets the flags of some letters. -/
def setting? (on : Bool) (letters : List Char) : Option FlagChange :=
  letters.mapM fun c => return (← Flag.ofLetter? c, on)

/-- No flag changes twice. -/
def isOnce : FlagChange → Bool
  | [] => true
  | (flag, _) :: rest => (rest.lookup flag).isNone && isOnce rest

/-- The change that pieces of a text ask for, which stand around a minus.  Flags behind the minus
are turned off, and there is one at least. -/
def ofPieces? : List (List Char) → Option FlagChange
  | [on] => setting? true on
  | [on, off] => do
      let raised ← setting? true on
      let lowered ← setting? false off
      if off.isEmpty then none else some (raised ++ lowered)
  | _ => none

def ofText? (text : List Char) : Option FlagChange :=
  (ofPieces? (Text.pieces (· == '-') text)).filter isOnce

end FlagChange

/-- The name of a group: a letter or an underscore comes first. -/
def isGroupName : List Char → Bool
  | [] => false
  | first :: rest =>
      (first == '_' || Text.isAlphabetic first) &&
        rest.all fun c => "_.[]".toList.contains c || Text.isAlphanumeric c

/-- Reads the name of a group and the sign that ends it. -/
def readGroupName (s : List Char) : Option (GroupKind × List Char) :=
  let name := s.takeWhile (· != '>')
  match s.dropWhile (· != '>') with
  | _ :: rest => if isGroupName name then some (.named (String.ofList name), rest) else none
  | [] => none

/-- What a bracket opens. -/
inductive Opening where
  /-- Nothing: it changes flags, and is closed again. -/
  | flags (change : FlagChange)
  | group (kind : GroupKind)

/-- Reads flags and the sign behind them, which makes a group of them or none. -/
def readFlags (s : List Char) : Option (Opening × List Char) := do
  let isEnd (c : Char) : Bool := c == ':' || c == ')'
  let change ← FlagChange.ofText? (s.takeWhile (!isEnd ·))
  match s.dropWhile (!isEnd ·) with
  | ':' :: rest => return (.group (.flagged change), rest)
  | _ :: rest => if change.isEmpty then none else return (.flags change, rest)
  | [] => none

/-- Reads what stands behind an opening bracket. -/
def readOpening (spaced : Bool) (s : List Char) : Option (Opening × List Char) :=
  match skip spaced s with
  | '?' :: 'P' :: '<' :: rest => (readGroupName rest).map fun (kind, rest) => (.group kind, rest)
  | '?' :: '<' :: rest => (readGroupName rest).map fun (kind, rest) => (.group kind, rest)
  | '?' :: rest => readFlags rest
  | rest => some (.group .numbered, rest)

/-- Blanks count for nothing in a group, given whether they do in front of it. -/
def GroupKind.isSpaced (spaced : Bool) : GroupKind → Bool
  | .flagged change => change.apply .spaced spaced
  | _ => spaced

def Repetition.ofSign? (c : Char) : Option Repetition :=
  match c with
  | '?' => some .zeroOrOne
  | '*' => some .zeroOrMore
  | '+' => some .oneOrMore
  | _ => none

/-- Reads the sign for a repetition that takes as little as it can. -/
def readLazy : List Char → Bool × List Char
  | '?' :: rest => (true, rest)
  | rest => (false, rest)

/-- Repeats the last of some parts, which stand last first. -/
def repeatLast? (count : Repetition) (lazy : Bool) : List Pattern → Option (List Pattern)
  | [] => none
  | .flags _ :: _ => none
  | part :: parts => some (.repeated count lazy part :: parts)

/-- Reads a part that holds no others. -/
def readAtom (spaced : Bool) : List Char → Option (Pattern × List Char)
  | [] => none
  | '\\' :: rest => readEscape spaced rest
  | '.' :: rest => some (.dot, rest)
  | '^' :: rest => some (.anchor .lineStart, rest)
  | '$' :: rest => some (.anchor .lineEnd, rest)
  | '\x7b' :: _ => none
  | c :: rest => some (.literal { char := c }, rest)

/-- Reads a choice up to the bracket that closes its group, or the end, within a number of steps.
The branches before the current one are given, and the parts of that one, all last first. -/
def readWithin : Nat → Bool → List Pattern → List Pattern → List Char →
    Option (Pattern × List Char)
  | 0, _, _, _, _ => none
  | steps + 1, spaced, branches, parts, s =>
      let closed := ofParts parts.reverse :: branches
      match skip spaced s with
      | [] => some (ofBranches closed.reverse, [])
      | ')' :: rest => some (ofBranches closed.reverse, ')' :: rest)
      | '|' :: rest => readWithin steps spaced closed [] rest
      | '[' :: rest => do
          let (negated, inner, rest) ← CharSet.read spaced rest
          readWithin steps spaced branches (.brackets negated inner :: parts) rest
      | '(' :: rest => do
          match ← readOpening spaced rest with
          | (.flags change, rest) =>
              readWithin steps (change.apply .spaced spaced) branches (.flags change :: parts) rest
          | (.group kind, rest) =>
              match ← readWithin steps (kind.isSpaced spaced) [] [] rest with
              | (part, ')' :: rest) =>
                  readWithin steps spaced branches (.group kind part :: parts) rest
              | _ => none
      | c :: rest =>
          match Repetition.ofSign? c with
          | some count => do
              let (lazy, rest) := readLazy rest
              readWithin steps spaced branches (← repeatLast? count lazy parts) rest
          | none => do
              let (part, rest) ← readAtom spaced (c :: rest)
              readWithin steps spaced branches (part :: parts) rest

/-- How deep a pattern may be nested. -/
def depthLimit : Nat := 250

/-- Reads a pattern.  Every step takes a character. -/
def ofText? (s : List Char) : Option Pattern := do
  match ← readWithin (s.length + 1) false [] [] s with
  | (pattern, []) =>
      if pattern.depth ≤ depthLimit ∧ pattern.groupNames.eraseDups = pattern.groupNames then
        some pattern
      else none
  | _ => none

namespace ReadingWitness

/-- A text is a pattern. -/
def reads (s : String) : Bool :=
  (ofText? s.toList).isSome

example : reads "" = true ∧ reads "(a|[^]b])+?" = true ∧ reads "a**" = true ∧
    reads "(?P<n>a)|(?<_.1>b)" = true ∧ reads "(?i-sx:a)" = true := by decide +kernel

example : reads "*" = false ∧ reads "(" = false ∧ reads "a)" = false ∧ reads "[a" = false ∧
    reads "(|+)" = false ∧ reads "a\x7b2\x7d" = false ∧ reads "\\" = false := by decide +kernel

example : reads "(?ii)" = false ∧ reads "(?i-i)" = false ∧ reads "(?i-)" = false ∧
    reads "(?)" = false ∧ reads "(?i)*" = false ∧ reads "(?<n>a)(?<n>b)" = false ∧
    reads "(?<1>a)" = false := by decide +kernel

/-- A comment hides the brackets in it, and ends with its line. -/
example : reads "(?x)a # (" = true ∧ reads "(?x)a # \n (" = false ∧ reads "((?x) #)\n)#)" = false ∧
    reads "((?x) #)\n)[#]" = true := by decide +kernel

end ReadingWitness

end Logbook.Pattern
