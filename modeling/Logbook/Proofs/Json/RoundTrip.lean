/-
JSON texts.  The text of a value is a writing of its tree, with blanks around it or without, and
has no control character.
-/
import Logbook.Proofs.Json.Grammar

namespace Logbook.Json

namespace Value

mutual

/-- All numbers of a value are in their proper form. -/
def Proper : Value → Prop
  | .number t => t.Proper
  | .array items => ProperItems items
  | .object members => ProperMembers members
  | _ => True

/-- All numbers of items are in their proper form. -/
def ProperItems : List Value → Prop
  | [] => True
  | value :: rest => Proper value ∧ ProperItems rest

/-- All numbers of members are in their proper form. -/
def ProperMembers : List (List Char × Value) → Prop
  | [] => True
  | (_, value) :: rest => Proper value ∧ ProperMembers rest

end

mutual

def tokens : Value → List Token
  | .null => [.null]
  | .boolean b => [.boolean b]
  | .number t => [.number t]
  | .string s => [.string (.ok s)]
  | .array items => .openArray :: itemTokens true items ++ [.closeArray]
  | .object members => .openObject :: memberTokens true members ++ [.closeObject]

/-- The tokens of items, each but the first behind a comma. -/
def itemTokens (first : Bool) : List Value → List Token
  | [] => []
  | value :: rest => (if first then [] else [.comma]) ++ tokens value ++ itemTokens false rest

/-- The tokens of members, each but the first behind a comma. -/
def memberTokens (first : Bool) : List (List Char × Value) → List Token
  | [] => []
  | (key, value) :: rest =>
      (if first then [] else [.comma]) ++ [.string (.ok key), .colon] ++ tokens value ++
        memberTokens false rest

end

mutual

def tree : Value → Tree
  | .null => .null
  | .boolean b => .boolean b
  | .number t => .number t
  | .string s => .string (.ok s)
  | .array items => .array (itemTrees items) .closed
  | .object members => .object (memberTrees members) .closed

def itemTrees : List Value → List Tree
  | [] => []
  | value :: rest => tree value :: itemTrees rest

/-- The trees of members, with their keys. -/
def memberTrees : List (List Char × Value) → List (StringText × Tree)
  | [] => []
  | (key, value) :: rest => (.ok key, tree value) :: memberTrees rest

end

mutual

theorem tokens_tree : ∀ (value : Value), value.tree.tokens = value.tokens
  | .null => rfl
  | .boolean _ => rfl
  | .number _ => rfl
  | .string _ => rfl
  | .array items => by rw [tree, Tree.tokens, tokens_itemTrees, tokens]
  | .object members => by rw [tree, Tree.tokens, tokens_memberTrees, tokens]

theorem tokens_itemTrees : ∀ (items : List Value) (first : Bool),
    Tree.itemTokens first (itemTrees items) = itemTokens first items
  | [], _ => rfl
  | value :: items, first => by
      rw [itemTrees, Tree.itemTokens, tokens_tree, tokens_itemTrees, itemTokens]

theorem tokens_memberTrees : ∀ (members : List (List Char × Value)) (first : Bool),
    Tree.memberTokens first (memberTrees members) = memberTokens first members
  | [], _ => rfl
  | (key, value) :: members, first => by
      rw [memberTrees, Tree.memberTokens, tokens_tree, tokens_memberTrees, memberTokens]

end

mutual

theorem whole_tree : ∀ (value : Value), value.tree.Whole
  | .null => trivial
  | .boolean _ => trivial
  | .number _ => trivial
  | .string _ => trivial
  | .array items => ⟨whole_itemTrees items, rfl⟩
  | .object members => ⟨whole_memberTrees members, rfl⟩

theorem whole_itemTrees : ∀ (items : List Value), Tree.WholeItems (itemTrees items)
  | [] => trivial
  | value :: items => ⟨whole_tree value, whole_itemTrees items⟩

theorem whole_memberTrees : ∀ (members : List (List Char × Value)),
    Tree.WholeMembers (memberTrees members)
  | [] => trivial
  | (_, value) :: members => ⟨whole_tree value, whole_memberTrees members⟩

end

theorem spaced_comma (first : Bool) :
    Spaced (if first then [] else [.comma])
      (if first then [] else [[',']] : List (List Char)).flatten := by
  cases first with
  | true => exact .nil
  | false => exact Token.Spelled.comma.spaced

theorem spaced_string (s : List Char) : Spaced [.string (.ok s)] (quotedPieces s).flatten :=
  (Token.Spelled.ofText (flatten_quotedPieces s)).spaced

mutual

/-- The text of a value is made of the tokens of that value. -/
theorem spaced_pieces : ∀ (value : Value), value.Proper →
    Spaced value.tokens value.pieces.flatten
  | .null, _ => Token.Spelled.null.spaced
  | .boolean true, _ => Token.Spelled.isTrue.spaced
  | .boolean false, _ => Token.Spelled.isFalse.spaced
  | .number t, h => by
      have hnumber := (Token.Spelled.number (NumberText.Proper.spelled h)).spaced
      simpa [pieces, tokens] using hnumber
  | .string s, _ => spaced_string s
  | .array items, h => by
      have hitems := spaced_itemPieces items h true
      simp only [pieces, tokens, List.flatten_append, List.flatten_singleton]
      exact (Token.Spelled.openArray.spaced.append hitems).append Token.Spelled.closeArray.spaced
  | .object members, h => by
      have hmembers := spaced_memberPieces members h true
      simp only [pieces, tokens, List.flatten_append, List.flatten_singleton]
      exact (Token.Spelled.openObject.spaced.append hmembers).append
        Token.Spelled.closeObject.spaced

theorem spaced_itemPieces : ∀ (items : List Value), ProperItems items → ∀ (first : Bool),
    Spaced (itemTokens first items) (itemPieces first items).flatten
  | [], _, _ => .nil
  | value :: items, h, first => by
      have hvalue := spaced_pieces value h.1
      have hitems := spaced_itemPieces items h.2 false
      simp only [itemPieces, itemTokens, List.flatten_append]
      exact ((spaced_comma first).append hvalue).append hitems

theorem spaced_memberPieces : ∀ (members : List (List Char × Value)), ProperMembers members →
    ∀ (first : Bool), Spaced (memberTokens first members) (memberPieces first members).flatten
  | [], _, _ => .nil
  | (key, value) :: members, h, first => by
      have hkey := (spaced_string key).append Token.Spelled.colon.spaced
      have hvalue := spaced_pieces value h.1
      have hmembers := spaced_memberPieces members h.2 false
      have hmember := ((spaced_comma first).append hkey).append hvalue
      simpa only [memberPieces, memberTokens, List.flatten_append, List.flatten_cons,
        List.append_assoc, List.cons_append, List.nil_append] using hmember.append hmembers

end

/-- The text of a value between blanks is a writing of its tree. -/
theorem writes {value : Value} (hproper : value.Proper) {before after : List Char}
    (hbefore : Blank before) (hafter : Blank after) :
    value.tree.Writes (String.ofList before ++ value.text ++ String.ofList after) where
  whole := value.whole_tree
  spaced := by
    have hspaced := (value.spaced_pieces hproper).append (.done hafter)
    rw [List.append_nil] at hspaced
    simpa [text, tokens_tree] using hspaced.blank_append hbefore

end Value

theorem printed_comma (first : Bool) :
    Printed (if first then [] else [[',']] : List (List Char)).flatten := by
  cases first <;> simp [Printed]

namespace Value

mutual

/-- No value is written with a control character. -/
theorem printed_pieces : ∀ (value : Value), value.Proper → Printed value.pieces.flatten
  | .null, _ => by simp [pieces, Printed]
  | .boolean true, _ => by simp [pieces, Printed]
  | .boolean false, _ => by simp [pieces, Printed]
  | .number t, h => by
      have hnumber := NumberText.Proper.printed h
      simpa [pieces] using hnumber
  | .string s, _ => printed_quotedPieces s
  | .array items, h => by
      have hitems := printed_itemPieces items h true
      simp only [pieces, List.flatten_append, printed_append, List.flatten_cons,
        List.flatten_nil, List.append_nil]
      exact ⟨⟨by simp [Printed], hitems⟩, by simp [Printed]⟩
  | .object members, h => by
      have hmembers := printed_memberPieces members h true
      simp only [pieces, List.flatten_append, printed_append, List.flatten_cons,
        List.flatten_nil, List.append_nil]
      exact ⟨⟨by simp [Printed], hmembers⟩, by simp [Printed]⟩

theorem printed_itemPieces : ∀ (items : List Value), ProperItems items → ∀ (first : Bool),
    Printed (itemPieces first items).flatten
  | [], _, _ => printed_nil
  | value :: items, h, first => by
      simp only [itemPieces, List.flatten_append, printed_append]
      exact ⟨⟨printed_comma first, printed_pieces value h.1⟩, printed_itemPieces items h.2 false⟩

theorem printed_memberPieces : ∀ (members : List (List Char × Value)), ProperMembers members →
    ∀ (first : Bool), Printed (memberPieces first members).flatten
  | [], _, _ => printed_nil
  | (key, value) :: members, h, first => by
      simp only [memberPieces, List.flatten_append, printed_append]
      exact ⟨⟨⟨⟨printed_comma first, printed_quotedPieces key⟩, by simp [Printed]⟩,
        printed_pieces value h.1⟩, printed_memberPieces members h.2 false⟩

end

end Value

end Logbook.Json
