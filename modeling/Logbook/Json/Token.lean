/-
JSON tokens.  A text is cut into tokens up to its end or to the first place where it stops being
JSON.  Strings are looked at twice: once to find their end, which is all that a passed over
string needs, and once for their characters, where halves of surrogate pairs must meet.
-/
import Logbook.Json.Number
import Logbook.Text.Hexadecimal
import Logbook.Text.Slice

namespace Logbook.Json

/-- The characters between quotes, or why there are none. -/
abbrev StringText := Except Error (List Char)

/-- The smallest parts of a JSON text. -/
inductive Token where
  | openArray
  | closeArray
  | openObject
  | closeObject
  | comma
  | colon
  | null
  | boolean (b : Bool)
  | number (n : NumberText)
  | string (s : StringText)

/-- A place where a text stops being made of tokens, and whether a string was begun there. -/
structure Stop where
  problem : Problem
  quoted : Bool
  deriving DecidableEq, Repr

/-- The tokens of a text.  `stop` tells what ended them, unless the text itself did. -/
structure Tokens where
  list : List Token
  stop : Option Stop

/-- Blanks between tokens. -/
def isSpace (c : Char) : Bool :=
  c == ' ' || c == '\t' || c == '\n' || c == '\r'

/-- The number of four hexadecimal digits. -/
def hexWord? (a b c d : Char) : Option Nat := do
  let high := (← Text.hexDigit? a) * 16 + (← Text.hexDigit? b)
  return (high * 16 + (← Text.hexDigit? c)) * 16 + (← Text.hexDigit? d)

/-- What is wrong with a character number that has not four digits.  Four bytes must follow. -/
def numberProblem (s : List Char) : Error :=
  if Text.byteLength s < 4 then .cutShort else .malformed

/-- The character that a letter after a backslash stands for. -/
def escaped? : Char → Option Char
  | '"' => some '"'
  | '\\' => some '\\'
  | '/' => some '/'
  | 'b' => some '\x08'
  | 'f' => some '\x0c'
  | 'n' => some '\n'
  | 'r' => some '\r'
  | 't' => some '\t'
  | _ => none

/-- What follows a string, given what follows its opening quote. -/
def skipString : List Char → Except Error (List Char)
  | [] => .error .cutShort
  | ['\\'] => .error .cutShort
  | '\\' :: 'u' :: a :: b :: c :: d :: rest =>
      if (hexWord? a b c d).isSome then skipString rest else .error .malformed
  | '\\' :: 'u' :: rest => .error (numberProblem rest)
  | '\\' :: c :: rest => if (escaped? c).isSome then skipString rest else .error .malformed
  | c :: rest =>
      if c = '"' then .ok rest
      else if c.toNat < 0x20 then .error .malformed
      else skipString rest

/-- The characters of a string, given what follows its opening quote. -/
def readString : List Char → StringText
  | [] => .error .cutShort
  | ['\\'] => .error .cutShort
  | '\\' :: 'u' :: a :: b :: c :: d :: rest =>
      match hexWord? a b c d with
      | none => .error .malformed
      | some n =>
          if 0xdc00 ≤ n ∧ n ≤ 0xdfff then .error .malformed
          else if n < 0xd800 ∨ 0xdbff < n then (readString rest).map (Char.ofNat n :: ·)
          else match rest with
            | [] => .error .cutShort
            | ['\\'] => .error .cutShort
            | '\\' :: 'u' :: a' :: b' :: c' :: d' :: rest =>
                match hexWord? a' b' c' d' with
                | none => .error .malformed
                | some m =>
                    if m < 0xdc00 ∨ 0xdfff < m then .error .malformed
                    else (readString rest).map
                      (Char.ofNat (0x10000 + (n - 0xd800) * 0x400 + (m - 0xdc00)) :: ·)
            | '\\' :: 'u' :: rest => .error (numberProblem rest)
            | _ => .error .malformed
  | '\\' :: 'u' :: rest => .error (numberProblem rest)
  | '\\' :: c :: rest =>
      match escaped? c with
      | some c => (readString rest).map (c :: ·)
      | none => .error .malformed
  | c :: rest =>
      if c = '"' then .ok []
      else if c.toNat < 0x20 then .error .malformed
      else (readString rest).map (c :: ·)

theorem length_skipString {s rest : List Char} (h : skipString s = .ok rest) :
    rest.length < s.length := by
  fun_induction skipString s <;> simp_all <;> omega

/-- The digits at the start of a text, and what follows them. -/
def spanDigits : List Char → List Nat × List Char
  | [] => ([], [])
  | c :: rest =>
      if c.isDigit then
        let (digits, rest) := spanDigits rest
        ((c.toNat - '0'.toNat) :: digits, rest)
      else ([], c :: rest)

theorem length_spanDigits (s : List Char) : (spanDigits s).2.length ≤ s.length := by
  induction s with
  | nil => simp [spanDigits]
  | cons c rest ih =>
      unfold spanDigits
      split
      · simp only [List.length_cons]
        omega
      · simp

/-- The problem at a place where a digit is missing. -/
def missingDigit : List Char → Problem
  | [] => .openNumber
  | _ => .malformed

/-- The exponent at the start of a text, if there is one. -/
def spanExponent : List Char → Except Problem (Option Exponent × List Char)
  | c :: rest =>
      if c = 'e' ∨ c = 'E' then
        let (negative, rest) := match rest with
          | '-' :: rest => (true, rest)
          | '+' :: rest => (false, rest)
          | rest => (false, rest)
        match spanDigits rest with
        | ([], rest) => .error (missingDigit rest)
        | (digits, rest) => .ok (some ⟨negative, digits⟩, rest)
      else .ok (none, c :: rest)
  | [] => .ok (none, [])

/-- The fraction at the start of a text, if there is one. -/
def spanFraction : List Char → Except Problem (Option (List Nat) × List Char)
  | '.' :: rest =>
      match spanDigits rest with
      | ([], rest) => .error (missingDigit rest)
      | (digits, rest) => .ok (some digits, rest)
  | rest => .ok (none, rest)

/-- The whole part of a number.  A zero in front stands alone. -/
def spanWhole (s : List Char) : Except Problem (List Nat × List Char) :=
  match spanDigits s with
  | ([], rest) => .error (missingDigit rest)
  | (0 :: _ :: _, _) => .error .malformed
  | (digits, rest) => .ok (digits, rest)

/-- The number at the start of a text, and what follows it. -/
def spanNumber (s : List Char) : Except Problem (NumberText × List Char) := do
  let (negative, s) := match s with
    | '-' :: rest => (true, rest)
    | rest => (false, rest)
  let (whole, s) ← spanWhole s
  let (fraction, s) ← spanFraction s
  let (exponent, s) ← spanExponent s
  return (⟨negative, whole, fraction, exponent⟩, s)

/-- What follows a word at the start of a text. -/
def stripWord : List Char → List Char → Except Problem (List Char)
  | [], s => .ok s
  | _ :: _, [] => .error .cutShort
  | w :: word, c :: s => if w = c then stripWord word s else .error .malformed

/-- The string after an opening quote, and what follows it. -/
def spanString (s : List Char) : Except Problem (Token × List Char) :=
  match skipString s with
  | .ok rest => .ok (.string (readString s), rest)
  | .error skipped =>
      match readString s with
      | .error read => .error ⟨read, skipped⟩
      | .ok _ => .error ⟨skipped, skipped⟩

/-- The token at the start of a text that does not start with a blank. -/
def scan (c : Char) (rest : List Char) : Except Problem (Token × List Char) :=
  match c with
  | '[' => .ok (.openArray, rest)
  | ']' => .ok (.closeArray, rest)
  | '\x7b' => .ok (.openObject, rest)
  | '\x7d' => .ok (.closeObject, rest)
  | ',' => .ok (.comma, rest)
  | ':' => .ok (.colon, rest)
  | '"' => spanString rest
  | 'n' => (stripWord ['u', 'l', 'l'] rest).map (.null, ·)
  | 't' => (stripWord ['r', 'u', 'e'] rest).map (.boolean true, ·)
  | 'f' => (stripWord ['a', 'l', 's', 'e'] rest).map (.boolean false, ·)
  | c =>
      if c == '-' || c.isDigit then (spanNumber (c :: rest)).map fun (n, rest) => (.number n, rest)
      else .error .malformed

theorem length_stripWord {word s rest : List Char} (h : stripWord word s = .ok rest) :
    rest.length ≤ s.length := by
  fun_induction stripWord word s <;> simp_all
  omega

theorem length_spanString {s rest : List Char} {token : Token}
    (h : spanString s = .ok (token, rest)) : rest.length < s.length := by
  unfold spanString at h
  split at h
  · rename_i heq
    obtain ⟨_, rfl⟩ := by simpa using h
    exact length_skipString heq
  · split at h <;> simp at h

theorem length_spanExponent {s rest : List Char} {exponent : Option Exponent}
    (h : spanExponent s = .ok (exponent, rest)) : rest.length ≤ s.length := by
  unfold spanExponent at h
  split at h
  · rename_i c tail
    split at h
    · split at h
      rename_i negative tail' heq
      have htail : tail'.length ≤ tail.length := by
        split at heq <;> simp_all
      have hspan := length_spanDigits tail'
      split at h
      · simp at h
      · rename_i hdigits
        obtain ⟨_, rfl⟩ := by simpa using h
        simp only [hdigits] at hspan
        simp only [List.length_cons]
        omega
    · obtain ⟨_, rfl⟩ := by simpa using h
      simp
  · obtain ⟨_, rfl⟩ := by simpa using h
    simp

theorem length_spanFraction {s rest : List Char} {fraction : Option (List Nat)}
    (h : spanFraction s = .ok (fraction, rest)) : rest.length ≤ s.length := by
  unfold spanFraction at h
  split at h
  · rename_i tail
    have hspan := length_spanDigits tail
    split at h
    · simp at h
    · rename_i hdigits
      obtain ⟨_, rfl⟩ := by simpa using h
      simp only [hdigits] at hspan
      simp only [List.length_cons]
      omega
  · obtain ⟨_, rfl⟩ := by simpa using h
    simp

theorem length_spanDigits_lt {s rest : List Char} {digit : Nat} {digits : List Nat}
    (h : spanDigits s = (digit :: digits, rest)) : rest.length < s.length := by
  cases s with
  | nil => simp [spanDigits] at h
  | cons c tail =>
      unfold spanDigits at h
      split at h
      · have hspan := length_spanDigits tail
        simp only [Prod.mk.injEq] at h
        rw [h.2] at hspan
        simp only [List.length_cons]
        omega
      · simp at h

theorem length_spanWhole {s rest : List Char} {whole : List Nat}
    (h : spanWhole s = .ok (whole, rest)) : rest.length < s.length := by
  unfold spanWhole at h
  split at h
  · simp at h
  · simp at h
  · rename_i digits tail hnil hzero heq
    obtain ⟨_, rfl⟩ := by simpa using h
    cases digits with
    | nil => exact absurd rfl hnil
    | cons digit digits => exact length_spanDigits_lt heq

theorem length_spanNumber {s rest : List Char} {n : NumberText}
    (h : spanNumber s = .ok (n, rest)) : rest.length < s.length := by
  unfold spanNumber at h
  split at h
  rename_i negative tail heq
  have htail : tail.length ≤ s.length := by
    split at heq <;> simp_all
  cases hwhole : spanWhole tail with
  | error e => simp [hwhole, bind, Except.bind] at h
  | ok whole =>
      have h1 := length_spanWhole hwhole
      cases hfraction : spanFraction whole.2 with
      | error e => simp [hwhole, hfraction, bind, Except.bind] at h
      | ok fraction =>
          have h2 := length_spanFraction hfraction
          cases hexponent : spanExponent fraction.2 with
          | error e => simp [hwhole, hfraction, hexponent, bind, Except.bind] at h
          | ok exponent =>
              have h3 := length_spanExponent hexponent
              simp [hwhole, hfraction, hexponent, bind, Except.bind, pure, Except.pure] at h
              obtain ⟨_, rfl⟩ := h
              omega

/-- A token takes at least one character. -/
theorem length_scan {c : Char} {rest rest' : List Char} {token : Token}
    (h : scan c rest = .ok (token, rest')) : rest'.length ≤ rest.length := by
  unfold scan at h
  split at h
  case h_7 => exact Nat.le_of_lt (length_spanString h)
  case h_8 | h_9 | h_10 =>
    revert h
    cases hword : stripWord _ rest with
    | error e => simp [Except.map]
    | ok tail =>
        simp only [Except.map, Except.ok.injEq, Prod.mk.injEq, and_imp]
        rintro _ rfl
        exact length_stripWord hword
  case h_11 =>
    split at h
    · cases hnumber : spanNumber (c :: rest) with
      | error e => simp [hnumber, Except.map] at h
      | ok n =>
          simp only [hnumber, Except.map, Except.ok.injEq, Prod.mk.injEq] at h
          have := length_spanNumber hnumber
          simp only [List.length_cons] at this
          rw [← h.2]
          omega
    · simp at h
  all_goals
    obtain ⟨_, rfl⟩ := by simpa using h
    exact Nat.le_refl _

def lex (s : List Char) : Tokens :=
  match s with
  | [] => ⟨[], none⟩
  | c :: rest =>
      if isSpace c then lex rest
      else match h : scan c rest with
        | .error problem => ⟨[], some ⟨problem, c == '"'⟩⟩
        | .ok (token, rest') =>
            have : rest'.length ≤ rest.length := length_scan h
            let tokens := lex rest'
            { tokens with list := token :: tokens.list }
termination_by s.length

end Logbook.Json
