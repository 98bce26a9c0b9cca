/-
Dates and times in TOML documents: a date, a time of day, or both, the last with or without an
offset from UTC.  Seconds may be left out.  The text of a moment is its canonical one: a T
between date and time, a capital Z, and no zeros at the end of a fraction.
-/
import Logbook.Text.Layout

namespace Logbook.Toml

/-- A day of the calendar. -/
structure Date where
  year : Nat
  month : Nat
  day : Nat
  deriving DecidableEq, Repr

/-- A time of day, with the digits of its fraction of a second. -/
structure Time where
  hour : Nat
  minute : Nat
  second : Option Nat
  fraction : Option (List Char)
  deriving DecidableEq, Repr

/-- The distance from UTC. -/
inductive Offset where
  | utc
  | minutes (negative : Bool) (n : Nat)
  deriving DecidableEq, Repr

/-- A date, a time, or both with an offset or none. -/
inductive Moment where
  | date (date : Date)
  | time (time : Time)
  | dateTime (date : Date) (time : Time) (offset : Option Offset)
  deriving DecidableEq, Repr

namespace Date

/-- The number of days of a month. -/
def monthLength (year month : Nat) : Nat :=
  if month = 2 then
    if year % 4 = 0 ∧ (year % 100 ≠ 0 ∨ year % 400 = 0) then 29 else 28
  else if month = 4 ∨ month = 6 ∨ month = 9 ∨ month = 11 then 30 else 31

def isValid (d : Date) : Bool :=
  decide (1 ≤ d.month ∧ d.month ≤ 12 ∧ 1 ≤ d.day ∧ d.day ≤ monthLength d.year d.month)

def text (d : Date) : String :=
  Text.zeroPadded 4 d.year ++ "-" ++ Text.zeroPadded 2 d.month ++ "-" ++ Text.zeroPadded 2 d.day

end Date

namespace Time

/-- The time exists; a minute may have a leap second. -/
def isValid (t : Time) : Bool :=
  decide (t.hour ≤ 23 ∧ t.minute ≤ 59 ∧ t.second.getD 0 ≤ 60)

/-- A fraction in nanoseconds, without the zeros at its end. -/
def fractionText (digits : List Char) : String :=
  let kept := ((digits.take 9).reverse.dropWhile (· == '0')).reverse
  if kept.isEmpty then "0" else String.ofList kept

def text (t : Time) : String :=
  Text.zeroPadded 2 t.hour ++ ":" ++ Text.zeroPadded 2 t.minute ++
    (match t.second with
      | none => ""
      | some second => ":" ++ Text.zeroPadded 2 second) ++
    (match t.fraction with
      | none => ""
      | some digits => "." ++ fractionText digits)

end Time

/-- The text of an offset.  A distance of zero is positive. -/
def Offset.text : Offset → String
  | .utc => "Z"
  | .minutes negative n =>
      (if negative && n != 0 then "-" else "+") ++ Text.zeroPadded 2 (n / 60) ++ ":" ++
        Text.zeroPadded 2 (n % 60)

def Moment.text : Moment → String
  | .date d => d.text
  | .time t => t.text
  | .dateTime d t offset => d.text ++ "T" ++ t.text ++ ((offset.map Offset.text).getD "")

namespace Moment

/-- The number that one or two or four digits write. -/
def digits? (s : List Char) : Option Nat :=
  if s.all Char.isDigit then some (s.foldl (fun n c => n * 10 + (c.toNat - '0'.toNat)) 0) else none

/-- The date at the start of a text, and what follows it. -/
def spanDate? : List Char → Option (Date × List Char)
  | y1 :: y2 :: y3 :: y4 :: '-' :: m1 :: m2 :: '-' :: d1 :: d2 :: rest => do
      let d : Date := ⟨← digits? [y1, y2, y3, y4], ← digits? [m1, m2], ← digits? [d1, d2]⟩
      if d.isValid then some (d, rest) else none
  | _ => none

/-- The fraction of a second at the start of a text, and what follows it. -/
def spanFraction? : List Char → Option (Option (List Char) × List Char)
  | '.' :: rest =>
      let digits := rest.takeWhile Char.isDigit
      if digits.isEmpty then none else some (some digits, rest.dropWhile Char.isDigit)
  | rest => some (none, rest)

/-- The time at the start of a text, and what follows it. -/
def spanTime? : List Char → Option (Time × List Char)
  | h1 :: h2 :: ':' :: m1 :: m2 :: rest => do
      let hour ← digits? [h1, h2]
      let minute ← digits? [m1, m2]
      match rest with
      | ':' :: s1 :: s2 :: rest =>
          let second ← digits? [s1, s2]
          let (fraction, rest) ← spanFraction? rest
          let t : Time := ⟨hour, minute, some second, fraction⟩
          if t.isValid then some (t, rest) else none
      | rest =>
          let t : Time := ⟨hour, minute, none, none⟩
          if t.isValid then some (t, rest) else none
  | _ => none

/-- A whole text as an offset, or as none when it is empty. -/
def offset? : List Char → Option (Option Offset)
  | [] => some none
  | ['Z'] => some (some .utc)
  | ['z'] => some (some .utc)
  | [sign, h1, h2, ':', m1, m2] => do
      let hours ← digits? [h1, h2]
      let minutes ← digits? [m1, m2]
      if (sign = '+' ∨ sign = '-') ∧ hours ≤ 23 ∧ minutes ≤ 59 then
        some (some (.minutes (sign = '-') (hours * 60 + minutes)))
      else none
  | _ => none

/-- Reads a whole text as a moment. -/
def ofText? (s : List Char) : Option Moment :=
  match spanDate? s with
  | some (d, []) => some (.date d)
  | some (d, c :: rest) =>
      if c = 'T' ∨ c = 't' ∨ c = ' ' then do
        let (t, rest) ← spanTime? rest
        return .dateTime d t (← offset? rest)
      else none
  | none =>
      match spanTime? s with
      | some (t, []) => some (.time t)
      | _ => none

end Moment

namespace MomentWitness

example : (Moment.ofText? "1979-05-27 07:32:00.50-07:00".toList).map Moment.text =
    some "1979-05-27T07:32:00.5-07:00" := by decide +kernel

example : Moment.ofText? "1979-02-29".toList = none := by decide +kernel

end MomentWitness

end Logbook.Toml
