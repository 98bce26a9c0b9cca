/-
Whole trees as they are written.  The tokens of a whole tree build that tree, and no two numbers
stand side by side among them; so a text in which they are spelled and spaced in any way is read
as that tree.  Main statement: `Tree.Writes.ofText`.
-/
import Logbook.Proofs.Json.Spelling
import Logbook.Proofs.Json.Whole

namespace Logbook.Json

namespace Tree

mutual

/-- The tokens of a tree, as far as it is whole. -/
def tokens : Tree → List Token
  | .null => [.null]
  | .boolean b => [.boolean b]
  | .number t => [.number t]
  | .string s => [.string s]
  | .array items _ => .openArray :: itemTokens true items ++ [.closeArray]
  | .object members _ => .openObject :: memberTokens true members ++ [.closeObject]
  | .broken _ => []

/-- The tokens of items, each but the first behind a comma. -/
def itemTokens (first : Bool) : List Tree → List Token
  | [] => []
  | tree :: rest => (if first then [] else [.comma]) ++ tokens tree ++ itemTokens false rest

/-- The tokens of members, each but the first behind a comma. -/
def memberTokens (first : Bool) : List (StringText × Tree) → List Token
  | [] => []
  | (key, tree) :: rest =>
      (if first then [] else [.comma]) ++ [.string key, .colon] ++ tokens tree ++
        memberTokens false rest

end

/-- Tokens that may stand behind a value. -/
structure Behind (after : List Token) : Prop where
  parted : after.IsChain Token.Parted
  mark : ∀ next ∈ after.head?, next.isNumber = false

theorem Behind.nil : Behind [] where
  parted := .nil
  mark := by simp

theorem parted_cons (token : Token) (htoken : token.isNumber = false) {after : List Token}
    (h : after.IsChain Token.Parted) : (token :: after).IsChain Token.Parted := by
  refine List.isChain_cons.mpr ⟨fun next _ hnumber => ?_, h⟩
  simp [htoken] at hnumber

theorem Behind.cons (token : Token) (htoken : token.isNumber = false) {after : List Token}
    (h : after.IsChain Token.Parted) : Behind (token :: after) where
  parted := parted_cons token htoken h
  mark := by simpa using htoken

mutual

/-- No two numbers stand side by side among the tokens of a tree and what may stand behind. -/
theorem parted_tokens : ∀ (tree : Tree) {after : List Token}, Behind after →
    (tree.tokens ++ after).IsChain Token.Parted
  | .null, _, h => parted_cons _ rfl h.parted
  | .boolean _, _, h => parted_cons _ rfl h.parted
  | .number _, _, h => List.isChain_cons.mpr ⟨fun next hnext _ => h.mark next hnext, h.parted⟩
  | .string _, _, h => parted_cons _ rfl h.parted
  | .array [] _, _, h => parted_cons _ rfl (parted_cons _ rfl h.parted)
  | .array (tree :: items) _, after, h => by
      have hclose : Behind (.closeArray :: after) := .cons _ rfl h.parted
      have hitems := parted_tokens tree (behind_itemTokens items hclose)
      simpa [tokens, itemTokens] using parted_cons .openArray rfl hitems
  | .object [] _, _, h => parted_cons _ rfl (parted_cons _ rfl h.parted)
  | .object ((key, tree) :: members) _, after, h => by
      have hclose : Behind (.closeObject :: after) := .cons _ rfl h.parted
      have hvalue := parted_tokens tree (behind_memberTokens members hclose)
      have hkey := parted_cons (.string key) rfl (parted_cons .colon rfl hvalue)
      simpa [tokens, memberTokens] using parted_cons .openObject rfl hkey
  | .broken _, _, h => h.parted

theorem behind_itemTokens : ∀ (items : List Tree) {after : List Token}, Behind after →
    Behind (itemTokens false items ++ after)
  | [], _, h => h
  | tree :: items, _, h => by
      have htree := parted_tokens tree (behind_itemTokens items h)
      simpa [itemTokens] using Behind.cons .comma rfl htree

theorem behind_memberTokens : ∀ (members : List (StringText × Tree)) {after : List Token},
    Behind after → Behind (memberTokens false members ++ after)
  | [], _, h => h
  | (key, tree) :: members, _, h => by
      have hvalue := parted_tokens tree (behind_memberTokens members h)
      have hkey := parted_cons (.string key) rfl (parted_cons .colon rfl hvalue)
      simpa [memberTokens] using Behind.cons .comma rfl hkey

end

/-- Where the first item or the end of an array is due, a whole tree is read as a first item. -/
theorem foldl_firstItem {tree : Tree} (h : tree.Whole) (outer : Context) :
    tree.tokens.foldl Reading.step (.firstItem outer) =
      tree.tokens.foldl Reading.step (.value (.item [] outer)) := by
  cases tree with
  | broken problem => exact h.elim
  | _ => rfl

mutual

/-- The tokens of a whole tree put it in its place. -/
theorem foldl_tokens : ∀ (tree : Tree), tree.Whole → ∀ (context : Context),
    tree.tokens.foldl Reading.step (.value context) = context.put tree
  | .null, _, _ => rfl
  | .boolean _, _, _ => rfl
  | .number _, _, _ => rfl
  | .string _, _, _ => rfl
  | .array [] ending, h, _ => by
      obtain ⟨-, rfl⟩ := h
      rfl
  | .array (tree :: items) ending, h, context => by
      obtain ⟨⟨htree, hitems⟩, rfl⟩ := h
      have hfirst := foldl_tokens tree htree (.item [] context)
      have hrest := foldl_itemTokens items hitems [tree] context
      simp only [tokens, itemTokens, if_true, List.nil_append, List.cons_append,
        List.append_assoc, List.foldl_cons, List.foldl_append]
      -- The first item is read where the array might end, so `hfirst` does not apply at once.
      rw [show Reading.step (.value context) .openArray = .firstItem context from rfl,
        foldl_firstItem htree, hfirst]
      rw [show (Context.item [] context).put tree = .afterItem [tree] context from rfl, hrest]
      simp [Reading.step]
  | .object [] ending, h, _ => by
      obtain ⟨-, rfl⟩ := h
      rfl
  | .object ((key, tree) :: members) ending, h, context => by
      obtain ⟨⟨htree, hmembers⟩, rfl⟩ := h
      have hfirst := foldl_tokens tree htree (.member [] key context)
      have hrest := foldl_memberTokens members hmembers [(key, tree)] context
      simp only [tokens, memberTokens, if_true, List.nil_append, List.cons_append,
        List.append_assoc, List.foldl_cons, List.foldl_append]
      simp only [Reading.step, Reading.stepValue]
      rw [hfirst]
      simp only [Context.put]
      rw [hrest]
      simp
  | .broken _, h, _ => h.elim

theorem foldl_itemTokens : ∀ (items : List Tree), WholeItems items → ∀ (before : List Tree)
    (outer : Context),
    (itemTokens false items).foldl Reading.step (.afterItem before outer) =
      .afterItem (items.reverse ++ before) outer
  | [], _, _, _ => rfl
  | tree :: items, h, before, outer => by
      have hfirst := foldl_tokens tree h.1 (.item before outer)
      have hrest := foldl_itemTokens items h.2 (tree :: before) outer
      simp only [itemTokens, List.cons_append, List.nil_append, List.foldl_cons,
        List.foldl_append, Reading.step, Bool.false_eq_true, if_false]
      rw [hfirst]
      simp only [Context.put]
      rw [hrest]
      simp

theorem foldl_memberTokens : ∀ (members : List (StringText × Tree)), WholeMembers members →
    ∀ (before : List (StringText × Tree)) (outer : Context),
    (memberTokens false members).foldl Reading.step (.afterMember before outer) =
      .afterMember (members.reverse ++ before) outer
  | [], _, _, _ => rfl
  | (key, tree) :: members, h, before, outer => by
      have hfirst := foldl_tokens tree h.1 (.member before key outer)
      have hrest := foldl_memberTokens members h.2 ((key, tree) :: before) outer
      simp only [memberTokens, List.cons_append, List.nil_append, List.foldl_cons,
        List.foldl_append, Reading.step, Bool.false_eq_true, if_false]
      rw [hfirst]
      simp only [Context.put]
      rw [hrest]
      simp

end

/-- A whole tree and a text of it, however its tokens are spelled and whatever blanks are between
them. -/
structure Writes (tree : Tree) (text : String) : Prop where
  whole : tree.Whole
  spaced : Spaced tree.tokens text.toList

/-- A text is read as the tree it was written for. -/
theorem Writes.ofText {tree : Tree} {text : String} (h : tree.Writes text) :
    Document.ofText text = ⟨tree, false⟩ := by
  have hparted := tree.parted_tokens .nil
  rw [List.append_nil] at hparted
  have hfold := tree.foldl_tokens h.whole .root
  simp only [Document.ofText, lex_spaced h.spaced hparted, hfold]
  rfl

end Tree

end Logbook.Json
