/-
Every written value is read back as a tree.

* `Value.tree` — the tree a written value is read as.
* `Value.spells_chars` — what is written consists of the lexemes of that tree,
  without any blanks.
* `Document.ofText_render` — so the text of a value is a complete document, and its
  tree is the tree of the value.
-/
import ExecutionLink.Proofs.Json.Spelling

namespace ExecutionLink.Json

/-- The literal a written number is read as. -/
def Number.literal (n : Number) : NumberLiteral :=
  ((readNumber n.chars).map Prod.fst).getD ⟨false, [], none, none⟩

theorem Number.spells_literal (n : Number) : SpellsNumber n.chars n.literal := by
  obtain ⟨l, hl⟩ := n.numeral_chars.exists_spells
  have hread := readNumber_of_spells hl endsNumber_nil
  rw [List.append_nil] at hread
  rw [literal, hread]
  exact hl

namespace Value

mutual

/-- The tree of a written value. -/
def tree : Value → Tree
  | .null => .null
  | .bool b => .bool b
  | .number n => .number n.literal
  | .string s => .string (literal s)
  | .array items => .array (itemsTrees items) true
  | .object members => .object (membersTrees members) true

/-- The trees of the items of an array. -/
def itemsTrees : List Value → List Tree
  | [] => []
  | v :: vs => v.tree :: itemsTrees vs

/-- The trees of the members of an object. -/
def membersTrees : List (String × Value) → List (StringLiteral × Tree)
  | [] => []
  | (k, v) :: ms => (literal k, v.tree) :: membersTrees ms

end

mutual

theorem isComplete_tree (v : Value) : v.tree.isComplete := by
  cases v with
  | array items => exact Bool.and_eq_true_iff.mpr ⟨allComplete_itemsTrees items, rfl⟩
  | object members => exact Bool.and_eq_true_iff.mpr ⟨allComplete_membersTrees members, rfl⟩
  | _ => rfl

theorem allComplete_itemsTrees (vs : List Value) : Tree.allComplete (itemsTrees vs) := by
  match vs with
  | [] => rfl
  | v :: vs =>
    exact Bool.and_eq_true_iff.mpr ⟨isComplete_tree v, allComplete_itemsTrees vs⟩

theorem allComplete_membersTrees (ms : List (String × Value)) :
    Tree.allMembersComplete (membersTrees ms) := by
  match ms with
  | [] => rfl
  | (k, v) :: ms =>
    exact Bool.and_eq_true_iff.mpr ⟨isComplete_tree v, allComplete_membersTrees ms⟩

end

theorem spells_stringChars (s : String) :
    SpellsToken (stringChars s) (.string (literal s)) := by
  obtain ⟨body, hbody, hspells⟩ := readString_eq_some (readString_literal s [])
  rw [stringChars, List.cons_append, List.append_cancel_right hbody]
  exact .string hspells

mutual

/-- A written value consists of the lexemes of its tree. -/
theorem spells_chars (v : Value) : SpellsTokens v.chars v.tree.tokens := by
  cases v with
  | null => exact .single .null
  | bool b => cases b <;> exact .single (by constructor)
  | number n => exact .single (.number n.spells_literal)
  | string s => exact .single (spells_stringChars s)
  | array items =>
    exact ((SpellsTokens.single .openArray).append (spells_itemsChars items)).append
      (.single .closeArray)
  | object members =>
    exact ((SpellsTokens.single .openObject).append (spells_membersChars members)).append
      (.single .closeObject)

theorem spells_itemsChars (vs : List Value) :
    SpellsTokens (itemsChars vs) (Tree.itemsTokens (itemsTrees vs)) := by
  match vs with
  | [] => exact .nil
  | [v] => exact spells_chars v
  | v :: w :: vs =>
    exact (spells_chars v).append (.token .comma (spells_itemsChars (w :: vs)))

theorem spells_membersChars (ms : List (String × Value)) :
    SpellsTokens (membersChars ms) (Tree.membersTokens (membersTrees ms)) := by
  match ms with
  | [] => exact .nil
  | [(k, v)] => exact .token (spells_stringChars k) (.token .colon (spells_chars v))
  | (k, v) :: m :: ms =>
    have hmember : SpellsTokens (stringChars k ++ ':' :: v.chars)
        (.string (literal k) :: .colon :: v.tree.tokens) :=
      .token (spells_stringChars k) (.token .colon (spells_chars v))
    exact hmember.append (.token .comma (spells_membersChars (m :: ms)))

end

theorem spells_render (v : Value) : Spells v.render v.tree := by
  refine ⟨isComplete_tree v, ?_⟩
  rw [render, String.toList_ofList]
  exact spells_chars v

end Value

/-- The text of a value is a complete document, whose tree is the tree of the
value. -/
theorem Document.ofText_render (v : Value) : ofText v.render = ⟨v.tree, true⟩ :=
  ofText_eq_iff.mpr v.spells_render

end ExecutionLink.Json
