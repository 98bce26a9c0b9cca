/-
JSON tokens as they are written.  A token may be spelled in more than one way, and blanks may stand
around it.  Where no number stands next to a number, a text is cut into the tokens it was written
for.  Main statement: `lex_spaced`.
-/
import Logbook.Proofs.Json.Numbers
import Logbook.Proofs.Json.Strings
import Mathlib.Data.List.Chain
import Mathlib.Tactic.IntervalCases

namespace Logbook.Json

/-- Tokens in front of those of what follows. -/
def Tokens.behind (front : List Token) (tokens : Tokens) : Tokens :=
  { tokens with list := front ++ tokens.list }

/-- A text of blanks. -/
def Blank (text : List Char) : Prop :=
  ∀ c ∈ text, isSpace c = true

theorem lex_space {c : Char} (h : isSpace c = true) (rest : List Char) :
    lex (c :: rest) = lex rest := by
  rw [lex, if_pos h]

theorem lex_spaces {blank : List Char} (h : Blank blank) (rest : List Char) :
    lex (blank ++ rest) = lex rest := by
  induction blank with
  | nil => rfl
  | cons c blank ih =>
      rw [List.cons_append, lex_space (h c List.mem_cons_self)]
      exact ih fun d hd => h d (List.mem_cons_of_mem c hd)

theorem lex_blank {blank : List Char} (h : Blank blank) : lex blank = ⟨[], none⟩ := by
  have hspaces := lex_spaces h []
  rw [List.append_nil] at hspaces
  rw [hspaces, lex]

theorem lex_scan {c : Char} {rest rest' : List Char} {token : Token} (hspace : isSpace c = false)
    (hscan : scan c rest = .ok (token, rest')) :
    lex (c :: rest) = (lex rest').behind [token] := by
  rw [lex, if_neg (by simp [hspace])]
  split
  case h_1 problem heq => simp [hscan] at heq
  case h_2 token' tail heq =>
    rw [hscan, Except.ok.injEq, Prod.mk.injEq] at heq
    obtain ⟨rfl, rfl⟩ := heq
    rfl

theorem scan_digit {digit : Nat} (h : digit < 10) (rest : List Char) :
    isSpace digit.digitChar = false ∧ scan digit.digitChar rest =
      (spanNumber (digit.digitChar :: rest)).map fun (n, rest) => (.number n, rest) := by
  interval_cases digit <;> exact ⟨rfl, rfl⟩

namespace Token

def isNumber : Token → Bool
  | .number _ => true
  | _ => false

/-- Two tokens between which no blank is needed. -/
def Parted (token next : Token) : Prop :=
  token.isNumber = true → next.isNumber = false

/-- A token as it is written. -/
inductive Spelled : Token → List Char → Prop where
  | openArray : Spelled .openArray ['[']
  | closeArray : Spelled .closeArray [']']
  | openObject : Spelled .openObject ['\x7b']
  | closeObject : Spelled .closeObject ['\x7d']
  | comma : Spelled .comma [',']
  | colon : Spelled .colon [':']
  | null : Spelled .null ['n', 'u', 'l', 'l']
  | isTrue : Spelled (.boolean true) ['t', 'r', 'u', 'e']
  | isFalse : Spelled (.boolean false) ['f', 'a', 'l', 's', 'e']
  | number {t : NumberText} {text : List Char} (h : t.Spelled text) : Spelled (.number t) text
  | string (parts : List Part) : Spelled (.string (meaning parts)) ('"' :: (inside parts ++ ['"']))

theorem Spelled.ofText {s text : List Char} (h : text = '"' :: s.flatMap written ++ ['"']) :
    Spelled (.string (.ok s)) text := by
  obtain ⟨parts, hinside, hmeaning⟩ := exists_parts s
  rw [h, ← hinside, ← hmeaning]
  exact .string parts

/-- Only a number starts with what would carry on a number in front of it. -/
theorem Spelled.endsNumber {token : Token} {word : List Char} (h : token.Spelled word)
    (hnumber : token.isNumber = false) (rest : List Char) : EndsNumber (word ++ rest) := by
  rcases h with _ | _ | _ | _ | _ | _ | _ | _ | _ | _ | _
  case number => simp [isNumber] at hnumber
  all_goals exact endsNumber_cons (by decide) _

/-- A token is cut off in front of what does not carry it on. -/
theorem Spelled.lex {token : Token} {word : List Char} (h : token.Spelled word) {rest : List Char}
    (hrest : token.isNumber = true → EndsNumber rest) :
    lex (word ++ rest) = (lex rest).behind [token] := by
  rcases h with _ | _ | _ | _ | _ | _ | _ | _ | _ | @⟨t, _, hnumber⟩ | parts
  case number =>
    have hspan := hnumber.spanNumber (hrest rfl)
    obtain ⟨c, tail, rfl, hc⟩ := hnumber.eq_cons
    rw [List.cons_append] at hspan ⊢
    have hmap : (spanNumber (c :: (tail ++ rest))).map
        (fun (n, rest) => (Token.number n, rest)) = .ok (.number t, rest) := by
      rw [hspan]
      rfl
    rcases hc with rfl | ⟨digit, hdigit, rfl⟩
    · exact lex_scan rfl hmap
    · obtain ⟨hspace, hscan⟩ := scan_digit hdigit (tail ++ rest)
      exact lex_scan hspace (hscan.trans hmap)
  case string =>
    have hspan := spanString_inside parts rest
    rw [List.cons_append, List.append_assoc, List.singleton_append]
    exact lex_scan rfl hspan
  all_goals exact lex_scan rfl rfl

end Token

/-- Tokens as they are written, with blanks in front of each and behind the last. -/
inductive Spaced : List Token → List Char → Prop where
  | done {blank : List Char} (hblank : Blank blank) : Spaced [] blank
  | token {blank : List Char} (hblank : Blank blank) {token : Token} {word : List Char}
      (hword : token.Spelled word) {tokens : List Token} {rest : List Char}
      (hrest : Spaced tokens rest) : Spaced (token :: tokens) (blank ++ (word ++ rest))

theorem Blank.endsNumber {blank : List Char} (h : Blank blank) {rest : List Char}
    (hrest : EndsNumber rest) : EndsNumber (blank ++ rest) := by
  rcases blank with _ | ⟨c, blank⟩
  · exact hrest
  · have hspace := h c List.mem_cons_self
    simp only [isSpace, Bool.or_eq_true, beq_iff_eq] at hspace
    rcases hspace with ((rfl | rfl) | rfl) | rfl <;> exact endsNumber_cons (by decide) _

/-- Blanks, and tokens of which the first is no number, do not carry a number on. -/
theorem Spaced.endsNumber {tokens : List Token} {text : List Char} (h : Spaced tokens text)
    (hnext : ∀ next ∈ tokens.head?, next.isNumber = false) : EndsNumber text := by
  rcases h with hblank | ⟨hblank, hword, hrest⟩
  · have hends : EndsNumber [] := by simp [EndsNumber]
    simpa using hblank.endsNumber hends
  · exact hblank.endsNumber (hword.endsNumber (hnext _ rfl) _)

/-- A text is cut into the tokens it was written for, however they are spelled and spaced. -/
theorem lex_spaced {tokens : List Token} {text : List Char} (h : Spaced tokens text)
    (hparted : tokens.IsChain Token.Parted) : lex text = ⟨tokens, none⟩ := by
  induction h with
  | done hblank => exact lex_blank hblank
  | token hblank hword hrest ih =>
      obtain ⟨hnext, htail⟩ := List.isChain_cons.mp hparted
      have hends := fun hnumber => hrest.endsNumber fun next hmem => hnext next hmem hnumber
      rw [lex_spaces hblank, hword.lex hends, ih htail]
      rfl

theorem blank_nil : Blank [] := by
  intro c hc
  exact absurd hc List.not_mem_nil

theorem Spaced.nil : Spaced [] [] :=
  .done blank_nil

theorem Token.Spelled.spaced {token : Token} {word : List Char} (h : token.Spelled word) :
    Spaced [token] word := by
  simpa using Spaced.token blank_nil h .nil

theorem Spaced.blank_append {blank : List Char} (hblank : Blank blank) {tokens : List Token}
    {text : List Char} (h : Spaced tokens text) : Spaced tokens (blank ++ text) := by
  have happend : ∀ blank', Blank blank' → Blank (blank ++ blank') :=
    fun blank' hblank' => List.forall_mem_append.mpr ⟨hblank, hblank'⟩
  rcases h with hblank' | ⟨hblank', hword, hrest⟩
  · exact .done (happend _ hblank')
  · rw [← List.append_assoc]
    exact .token (happend _ hblank') hword hrest

theorem Spaced.append {tokens tokens' : List Token} {text text' : List Char}
    (h : Spaced tokens text) (h' : Spaced tokens' text') :
    Spaced (tokens ++ tokens') (text ++ text') := by
  induction h with
  | done hblank => exact h'.blank_append hblank
  | token hblank hword hrest ih =>
      rw [List.append_assoc, List.append_assoc, List.cons_append]
      exact .token hblank hword ih

end Logbook.Json
