/-
Sets between brackets.  At the start of a set hyphens stand for themselves, and so does a closing
bracket if it is the very first; a hyphen between two characters makes a range of them, unless a
second hyphen or the closing bracket comes behind it.  Double signs combine all that stands in
front of them with what follows, so they group to the left.
-/
import Logbook.Pattern.Escape

namespace Logbook.Pattern

def AsciiSet.ofName? (name : String) : Option AsciiSet :=
  match name with
  | "alnum" => some .alnum
  | "alpha" => some .alpha
  | "ascii" => some .ascii
  | "blank" => some .blank
  | "cntrl" => some .cntrl
  | "digit" => some .digit
  | "graph" => some .graph
  | "lower" => some .lower
  | "print" => some .print
  | "punct" => some .punct
  | "space" => some .space
  | "upper" => some .upper
  | "word" => some .word
  | "xdigit" => some .xdigit
  | _ => none

namespace CharSet

/-- The set that a part of a pattern is between brackets.  Places are no characters. -/
def ofPart? : Pattern → Option CharSet
  | .literal one => some (.literal one)
  | .shorthand name negated => some (.shorthand name negated)
  | _ => none

/-- The range between two parts of a pattern.  It may not run backwards. -/
def ofEnds? : Pattern → Pattern → Option CharSet
  | .literal first, .literal last =>
      if first.char ≤ last.char then some (.range first last) else none
  | _, _ => none

/-- Reads the set of ASCII that has a name, behind its first bracket. -/
def readAscii : List Char → Option (CharSet × List Char)
  | ':' :: rest => do
      let negated := rest.head? == some '^'
      let rest := if negated then rest.tail else rest
      match rest.dropWhile (· != ':') with
      | ':' :: ']' :: behind =>
          let name := String.ofList (rest.takeWhile (· != ':'))
          return (.ascii (← AsciiSet.ofName? name) negated, behind)
      | _ => none
  | _ => none

/-- Reads one character of a set, or what an escape stands for. -/
def readEnd (spaced : Bool) : List Char → Option (Pattern × List Char)
  | [] => none
  | '\\' :: rest => readEscape spaced rest
  | c :: rest => some (.literal { char := c }, rest)

/-- The character that tells what a hyphen in front of it means.  Where blanks count for nothing
it is looked for behind them and behind one number sign. -/
def behindHyphen? (spaced : Bool) (s : List Char) : Option Char :=
  if spaced then
    match s.dropWhile Text.isBlank with
    | '#' :: rest => (rest.dropWhile Text.isBlank).head?
    | rest => rest.head?
  else s.head?

/-- A hyphen makes a range, given the character behind it. -/
def makesRange (behind : Option Char) : Bool :=
  behind != some ']' && behind != some '-'

/-- Reads a character, a range or a shorthand. -/
def readMember (spaced : Bool) (s : List Char) : Option (CharSet × List Char) := do
  let (first, rest) ← readEnd spaced s
  match skip spaced rest with
  | [] => none
  | '-' :: behind =>
      if makesRange (behindHyphen? spaced behind) then
        let (last, rest) ← readEnd spaced (skip spaced behind)
        return (← ofEnds? first last, rest)
      else return (← ofPart? first, '-' :: behind)
  | rest => return (← ofPart? first, rest)

/-- Reads the caret that negates a set, behind the bracket that opens the set. -/
def readNegation (spaced : Bool) (s : List Char) : Bool × List Char :=
  match skip spaced s with
  | '^' :: rest => (true, rest)
  | rest => (false, rest)

def operation? (a b : Char) : Option SetOperation :=
  if a ≠ b then none
  else if a = '&' then some .intersection
  else if a = '-' then some .difference
  else if a = '~' then some .symmetricDifference
  else none

def leadingOperation? : List Char → Option SetOperation
  | a :: b :: _ => operation? a b
  | _ => none

/-- A set whose last parts are read, last first, with what an operation combines them with. -/
def close (left : Option (SetOperation × CharSet)) (parts : List CharSet) : CharSet :=
  match left with
  | none => ofParts parts.reverse
  | some (operation, left) => .combined operation left (ofParts parts.reverse)

/-- Reads the rest of a set up to its closing bracket, within a number of steps.  At the start
nothing but hyphens has been read. -/
def readWithin (spaced : Bool) :
    Nat → Bool → Option (SetOperation × CharSet) → List CharSet → List Char →
      Option (CharSet × List Char)
  | 0, _, _, _, _ => none
  | steps + 1, atStart, left, parts, s =>
      match skip spaced s with
      | [] => none
      | ']' :: rest =>
          if atStart && parts.isEmpty then
            readWithin spaced steps false left [.literal { char := ']' }] rest
          else some (close left parts, rest)
      | '[' :: rest =>
          match readAscii rest with
          | some (part, rest) => readWithin spaced steps false left (part :: parts) rest
          | none => do
              let (negated, rest) := readNegation spaced rest
              let (inner, rest) ← readWithin spaced steps true none [] rest
              readWithin spaced steps false left (.brackets negated inner :: parts) rest
      | c :: rest =>
          if atStart && c == '-' then
            readWithin spaced steps true left (.literal { char := '-' } :: parts) rest
          else match leadingOperation? (c :: rest) with
            | some operation =>
                readWithin spaced steps false (some (operation, close left parts)) []
                  (rest.drop 1)
            | none => do
                let (part, rest) ← readMember spaced (c :: rest)
                readWithin spaced steps false left (part :: parts) rest

/-- Reads a set behind the bracket that opens it, and whether it is negated.  Every step takes a
character. -/
def read (spaced : Bool) (s : List Char) : Option (Bool × CharSet × List Char) := do
  let (negated, rest) := readNegation spaced s
  let (inner, rest) ← readWithin spaced (s.length + 1) true none [] rest
  return (negated, inner, rest)

end CharSet

namespace BracketsWitness

/-- What is left behind a set. -/
def left? (s : String) : Option String :=
  (CharSet.read false s.toList).map fun read => String.ofList read.2.2

example : left? "]a]b" = some "b" ∧ left? "--a]b" = some "b" ∧ left? "^^]b" = some "b" ∧
    left? "a-]b" = some "b" ∧ left? "&&]b" = some "b" := by decide +kernel

example : left? "]" = none ∧ left? "b-a]" = none ∧ left? "a-\\d]" = none ∧
    left? "\\z]" = none ∧ left? "a-[b]]" = none := by decide +kernel

/-- A name that is none leaves a set within a set. -/
example : left? "[:alpha:]]b" = some "b" ∧ left? "[:alpha:]b" = none ∧
    left? "[:letter:]]b" = some "b" := by decide +kernel

end BracketsWitness

end Logbook.Pattern
