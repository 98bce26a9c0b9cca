/-
TOML tokens.  Words are runs of characters that mean nothing by themselves; the points inside
them divide keys but also belong to numbers, so they stay in their words.  Blanks count between
the brackets of a header and nowhere else; comments are dropped once they are found to be text.
A line ends in a line feed, with or without a carriage return before it.
-/
import Logbook.Text.Hexadecimal
import Logbook.Text.Pieces
import Logbook.Toml.Moment

namespace Logbook.Toml

/-- The smallest parts of a TOML document. -/
inductive Token where
  | word (s : List Char)
  | quoted (s : String)
  /-- A text between triple quotes. -/
  | block (s : String)
  | space
  | newline
  | equals
  | comma
  | openBracket
  | closeBracket
  | openBrace
  | closeBrace
  deriving DecidableEq, Repr

/-- A character that ends a word. -/
def isDelimiter (c : Char) : Bool :=
  c == '=' || c == ',' || c == '[' || c == ']' || c == '\x7b' || c == '\x7d' || c == ' ' ||
    c == '\t' || c == '#' || c == '\n' || c == '\r' || c == '\'' || c == '"'

/-- A character that may not stand in a text or a comment as it is. -/
def isControl (c : Char) : Bool :=
  (decide (c.toNat < 0x20) && c != '\t') || c == '\x7f'

/-- A character begins the end of a line, given what follows it. -/
def beginsLineEnd (c : Char) (rest : List Char) : Bool :=
  c == '\n' || (c == '\r' && rest.head? == some '\n')

/-- A character may stand in a text as it is, given what follows it.  Only a block may hold the
ends of lines. -/
def mayStand (block : Bool) (c : Char) (rest : List Char) : Bool :=
  !isControl c || (block && beginsLineEnd c rest)

/-- What a backslash and a letter stand for, where that is one character. -/
def escaped? : Char → Option Char
  | 'b' => some '\x08'
  | 't' => some '\t'
  | 'n' => some '\n'
  | 'f' => some '\x0c'
  | 'r' => some '\r'
  | 'e' => some '\x1b'
  | '"' => some '"'
  | '\\' => some '\\'
  | _ => none

/-- The number of digits in the number behind a backslash and a letter. -/
def escapeWidth? : Char → Option Nat
  | 'x' => some 2
  | 'u' => some 4
  | 'U' => some 8
  | _ => none

/-- Where the reading of an escaped text stands. -/
inductive EscapeState where
  /-- At a character. -/
  | plain
  /-- Behind a backslash. -/
  | begun
  /-- In the number of a character, before its last `left + 1` digits. -/
  | number (value left : Nat)
  /-- In the blanks behind a backslash, before the end of the line or behind it. -/
  | blank (lineEnded : Bool)

/-- The characters of an escaped text.  In a block a line may end in a backslash, which joins it
to the first character of a later line that is no blank. -/
def unescape (block : Bool) : EscapeState → List Char → Option (List Char)
  | .plain, [] => some []
  | .blank true, [] => some []
  | _, [] => none
  | .plain, c :: rest =>
      if c = '\\' then unescape block .begun rest
      else if mayStand block c rest then (unescape block .plain rest).map (c :: ·)
      else none
  | .begun, c :: rest =>
      match escaped? c, escapeWidth? c with
      | some e, _ => (unescape block .plain rest).map (e :: ·)
      | none, some width => unescape block (.number 0 (width - 1)) rest
      | none, none =>
          if block && (c == ' ' || c == '\t') then unescape block (.blank false) rest
          else if block && beginsLineEnd c rest then unescape block (.blank true) rest
          else none
  | .number value left, c :: rest => do
      let digit ← Text.hexDigit? c
      let value := value * 16 + digit
      match left with
      | 0 =>
          let e ← Text.charOfNat? value
          (unescape block .plain rest).map (e :: ·)
      | left + 1 => unescape block (.number value left) rest
  | .blank lineEnded, c :: rest =>
      if beginsLineEnd c rest then unescape block (.blank true) rest
      else if c = ' ' ∨ c = '\t' then unescape block (.blank lineEnded) rest
      else if lineEnded then
        if c = '\\' then unescape block .begun rest
        else if isControl c then none
        else (unescape block .plain rest).map (c :: ·)
      else none

/-- The inside of a text up to its closing quote, and what follows that.  Where there are
escapes, a character behind a backslash closes nothing. -/
def spanQuoted (quote : Char) (escapes : Bool) : List Char → Option (List Char × List Char)
  | [] => none
  | [c] => if c = quote then some ([], []) else none
  | c :: d :: rest =>
      if c = quote then some ([], d :: rest)
      else if c = '\\' ∧ escapes then
        (spanQuoted quote escapes rest).map fun (s, rest) => (c :: d :: s, rest)
      else (spanQuoted quote escapes (d :: rest)).map fun (s, rest) => (c :: s, rest)

/-- The number of quotes at the start of a text. -/
def leadingQuotes (quote : Char) (s : List Char) : Nat :=
  (s.takeWhile (· == quote)).length

/-- The inside of a block up to its three closing quotes, and what follows those.  Up to two
quotes right before them belong to the inside. -/
def spanBlock (quote : Char) (escapes : Bool) : List Char → Option (List Char × List Char)
  | [] => none
  | [_] => none
  | c :: d :: rest =>
      let quotes := leadingQuotes quote (c :: d :: rest)
      if 3 ≤ quotes then
        let extra := min 2 (quotes - 3)
        some (List.replicate extra quote, (c :: d :: rest).drop (extra + 3))
      else if c = '\\' ∧ escapes then
        (spanBlock quote escapes rest).map fun (s, rest) => (c :: d :: s, rest)
      else (spanBlock quote escapes (d :: rest)).map fun (s, rest) => (c :: s, rest)

/-- The characters of a text without escapes. -/
def verbatim (block : Bool) : List Char → Option (List Char)
  | [] => some []
  | c :: rest => if mayStand block c rest then (verbatim block rest).map (c :: ·) else none

/-- A block without the line end right behind its opening quotes. -/
def dropFirstLineEnd : List Char → List Char
  | '\n' :: rest => rest
  | '\r' :: '\n' :: rest => rest
  | s => s

/-- The text after an opening quote, and what follows it. -/
def spanText (quote : Char) (s : List Char) : Option (Token × List Char) := do
  let escapes := quote == '"'
  let decode (block : Bool) := if escapes then unescape block .plain else verbatim block
  if 2 ≤ leadingQuotes quote s then
    let (inside, rest) ← spanBlock quote escapes (s.drop 2)
    return (.block (String.ofList (← decode true (dropFirstLineEnd inside))), rest)
  else
    let (inside, rest) ← spanQuoted quote escapes s
    return (.quoted (String.ofList (← decode false inside)), rest)

/-- The word at the start of a text, and what follows it.  A date takes a time of day that stands
one blank behind it. -/
def spanWord (s : List Char) : List Char × List Char :=
  let word := s.takeWhile (!isDelimiter ·)
  match Moment.ofText? word, s.dropWhile (!isDelimiter ·) with
  | some (.date _), ' ' :: d :: rest =>
      if d.isDigit then
        (word ++ ' ' :: (d :: rest).takeWhile (!isDelimiter ·),
          (d :: rest).dropWhile (!isDelimiter ·))
      else (word, ' ' :: d :: rest)
  | _, rest => (word, rest)

/-- What follows a comment, given what follows its mark. -/
def skipComment (s : List Char) : Option (List Char) :=
  let inComment (c : Char) : Bool := c != '\n' && c != '\r'
  if (s.takeWhile inComment).all (!isControl ·) then some (s.dropWhile inComment) else none

/-- The token at the start of a text, if it is one that a document may hold, and what follows
it.  A comment is no token. -/
def scan (c : Char) (rest : List Char) : Option (Option Token × List Char) :=
  match c with
  | ' ' => some (some .space, rest)
  | '\t' => some (some .space, rest)
  | '\n' => some (some .newline, rest)
  | '\r' => if rest.head? = some '\n' then some (some .newline, rest.tail) else none
  | '=' => some (some .equals, rest)
  | ',' => some (some .comma, rest)
  | '[' => some (some .openBracket, rest)
  | ']' => some (some .closeBracket, rest)
  | '\x7b' => some (some .openBrace, rest)
  | '\x7d' => some (some .closeBrace, rest)
  | '#' => (skipComment rest).map fun rest => (none, rest)
  | '"' => (spanText '"' rest).map fun (token, rest) => (some token, rest)
  | '\'' => (spanText '\'' rest).map fun (token, rest) => (some token, rest)
  | c =>
      if isDelimiter c then none
      else
        let (word, rest) := spanWord (c :: rest)
        some (some (.word word), rest)

theorem length_dropWhile_le {p : Char → Bool} (s : List Char) :
    (s.dropWhile p).length ≤ s.length :=
  (List.dropWhile_sublist p).length_le

theorem length_spanQuoted {quote : Char} {escapes : Bool} {s inside rest : List Char}
    (h : spanQuoted quote escapes s = some (inside, rest)) : rest.length < s.length := by
  fun_induction spanQuoted quote escapes s generalizing inside with
  | case1 => simp at h
  | case2 => simp_all
  | case3 => simp at h
  | case4 => simp_all
  | case5 c d tail hc he ih =>
      obtain ⟨⟨inside', rest'⟩, h1, h2⟩ := Option.map_eq_some_iff.mp h
      simp only [Prod.mk.injEq] at h2
      have := ih (h2.2 ▸ h1)
      simp only [List.length_cons]
      omega
  | case6 c d tail hc he ih =>
      obtain ⟨⟨inside', rest'⟩, h1, h2⟩ := Option.map_eq_some_iff.mp h
      simp only [Prod.mk.injEq] at h2
      have := ih (h2.2 ▸ h1)
      simp only [List.length_cons] at *
      omega

theorem length_spanBlock {quote : Char} {escapes : Bool} {s inside rest : List Char}
    (h : spanBlock quote escapes s = some (inside, rest)) : rest.length < s.length := by
  fun_induction spanBlock quote escapes s generalizing inside with
  | case1 => simp at h
  | case2 => simp at h
  | case3 =>
      simp only [Option.some.injEq, Prod.mk.injEq] at h
      rw [← h.2]
      simp only [List.length_drop, List.length_cons]
      omega
  | case4 =>
      rename_i hc ih
      obtain ⟨⟨inside', rest'⟩, h1, h2⟩ := Option.map_eq_some_iff.mp h
      simp only [Prod.mk.injEq] at h2
      have := ih (h2.2 ▸ h1)
      simp only [List.length_cons]
      omega
  | case5 =>
      rename_i hc ih
      obtain ⟨⟨inside', rest'⟩, h1, h2⟩ := Option.map_eq_some_iff.mp h
      simp only [Prod.mk.injEq] at h2
      have := ih (h2.2 ▸ h1)
      simp only [List.length_cons] at *
      omega

theorem length_spanText {quote : Char} {s rest : List Char} {token : Token}
    (h : spanText quote s = some (token, rest)) : rest.length < s.length := by
  unfold spanText at h
  simp only [Option.bind_eq_bind, Option.pure_def] at h
  split at h
  · obtain ⟨⟨inside, rest'⟩, hspan, h⟩ := Option.bind_eq_some_iff.mp h
    obtain ⟨_, _, h⟩ := Option.bind_eq_some_iff.mp h
    simp only [Option.some.injEq, Prod.mk.injEq] at h
    have := length_spanBlock hspan
    rw [← h.2]
    simp only [List.length_drop] at this
    omega
  · obtain ⟨⟨inside, rest'⟩, hspan, h⟩ := Option.bind_eq_some_iff.mp h
    obtain ⟨_, _, h⟩ := Option.bind_eq_some_iff.mp h
    simp only [Option.some.injEq, Prod.mk.injEq] at h
    have := length_spanQuoted hspan
    rw [← h.2]
    exact this

theorem length_spanWord (s : List Char) :
    (spanWord s).2.length ≤ (s.dropWhile (!isDelimiter ·)).length := by
  unfold spanWord
  simp only
  split
  · rename_i d rest _ heq
    rw [heq]
    split
    · have := length_dropWhile_le (p := (!isDelimiter ·)) (d :: rest)
      simp only [List.length_cons] at *
      omega
    · exact Nat.le_refl _
  · exact Nat.le_refl _

theorem length_skipComment {s rest : List Char} (h : skipComment s = some rest) :
    rest.length ≤ s.length := by
  unfold skipComment at h
  simp only at h
  split at h
  · simp only [Option.some.injEq] at h
    rw [← h]
    exact length_dropWhile_le s
  · simp at h

/-- A token takes at least one character. -/
theorem length_scan {c : Char} {rest rest' : List Char} {token : Option Token}
    (h : scan c rest = some (token, rest')) : rest'.length ≤ rest.length := by
  unfold scan at h
  split at h
  case h_4 =>
    split at h
    · simp only [Option.some.injEq, Prod.mk.injEq] at h
      rw [← h.2, List.length_tail]
      omega
    · simp at h
  case h_11 =>
    obtain ⟨tail, h1, h2⟩ := Option.map_eq_some_iff.mp h
    simp only [Prod.mk.injEq] at h2
    rw [← h2.2]
    exact length_skipComment h1
  case h_12 | h_13 =>
    obtain ⟨tail, h1, h2⟩ := Option.map_eq_some_iff.mp h
    simp only [Prod.mk.injEq] at h2
    rw [← h2.2]
    exact Nat.le_of_lt (length_spanText h1)
  case h_14 =>
    split at h
    · simp at h
    · rename_i hc
      simp only [Option.some.injEq, Prod.mk.injEq] at h
      have := length_spanWord (c :: rest)
      rw [h.2] at this
      rw [List.dropWhile_cons_of_pos (by simpa using hc)] at this
      exact Nat.le_trans this (length_dropWhile_le rest)
  all_goals
    simp only [Option.some.injEq, Prod.mk.injEq] at h
    exact Nat.le_of_eq (congrArg List.length h.2.symm)

/-- The tokens of a text, unless it has a part that is none. -/
def lex (s : List Char) : Option (List Token) :=
  match s with
  | [] => some []
  | c :: rest =>
      match h : scan c rest with
      | none => none
      | some (token, rest') =>
          have : rest'.length ≤ rest.length := length_scan h
          (lex rest').map (token.toList ++ ·)
termination_by s.length

namespace TokenWitness

example : lex "a.b= '\\x' # c
".toList = some [.word "a.b".toList, .equals, .space,
    .quoted "\\x", .space, .newline] := by cbv

example : lex "\"\"\"\n a\\\n  b\"\"\"\"".toList = some [.block " ab\""] := by cbv

example : lex "# c\r\n'''\r\na\r\n'''".toList = some [.newline, .block "a\r\n"] := by cbv

example : lex "\"\"\"a\\ \r\n b\"\"\"".toList = some [.block "ab"] ∧ lex "\r".toList = none := by
  cbv

example : lex "1979-05-27 07:32".toList = some [.word "1979-05-27 07:32".toList] := by cbv

end TokenWitness

end Logbook.Toml
