/-
Which texts are JSON, and what tree each of them is.

A tree has one list of tokens (`Tree.tokens`), and a text spells a tree if it
consists of the lexemes of these tokens with blanks before, between and behind
them (`Spells`).  Reading is shown to be the inverse of this in two steps:

* `Token.ofText_eq_iff` — a text is split into tokens exactly if it consists of
  their lexemes, as long as no two numbers stand side by side.
* `Document.ofTokens_eq_iff` — tokens are put together to a complete document
  exactly if they are those of its tree.  While they are read nothing is lost: what
  is open, what has been read and what is still to come are all the tokens there
  were (`openTokens`).
* `Document.ofText_eq_iff` — a text is a complete document exactly if it spells the
  tree of the document.
-/
import ExecutionLink.Json.Format
import ExecutionLink.Proofs.Json.Lexemes

namespace ExecutionLink.Json

/-! ### Lexemes -/

/-- What a token is written as. -/
inductive SpellsToken : List Char → Token → Prop
  | openObject : SpellsToken ['\x7b'] .openObject
  | closeObject : SpellsToken ['\x7d'] .closeObject
  | openArray : SpellsToken ['['] .openArray
  | closeArray : SpellsToken [']'] .closeArray
  | colon : SpellsToken [':'] .colon
  | comma : SpellsToken [','] .comma
  | null : SpellsToken ['n', 'u', 'l', 'l'] .null
  | true : SpellsToken ['t', 'r', 'u', 'e'] (.bool true)
  | false : SpellsToken ['f', 'a', 'l', 's', 'e'] (.bool false)
  | number {cs : List Char} {n : NumberLiteral} (h : SpellsNumber cs n) :
      SpellsToken cs (.number n)
  | string {cs : List Char} {s : StringLiteral} (h : SpellsString cs s) :
      SpellsToken ('"' :: (cs ++ ['"'])) (.string s)

/-- The text consists of the lexemes of the tokens, with blanks around them. -/
inductive SpellsTokens : List Char → List Token → Prop
  | nil : SpellsTokens [] []
  | blank {c : Char} {cs : List Char} {ts : List Token}
      (hc : c = ' ' ∨ c = '\t' ∨ c = '\n' ∨ c = '\r') (rest : SpellsTokens cs ts) :
      SpellsTokens (c :: cs) ts
  | token {lexeme cs : List Char} {t : Token} {ts : List Token} (ht : SpellsToken lexeme t)
      (rest : SpellsTokens cs ts) : SpellsTokens (lexeme ++ cs) (t :: ts)

theorem SpellsTokens.single {cs : List Char} {t : Token} (h : SpellsToken cs t) :
    SpellsTokens cs [t] := by
  rw [← List.append_nil cs]
  exact .token h .nil

theorem SpellsTokens.append {cs ds : List Char} {ts us : List Token} (hts : SpellsTokens cs ts)
    (hus : SpellsTokens ds us) : SpellsTokens (cs ++ ds) (ts ++ us) := by
  induction hts with
  | nil => exact hus
  | blank hc _ ih => exact .blank hc ih
  | token ht _ ih =>
    rw [List.append_assoc]
    exact .token ht ih

namespace Token

theorem isSpace_iff {c : Char} : isSpace c ↔ c = ' ' ∨ c = '\t' ∨ c = '\n' ∨ c = '\r' := by
  simp [isSpace, or_assoc]

theorem next?_eq_some {cs rest : List Char} {t : Token} (h : next? cs = some (t, rest)) :
    ∃ lexeme, cs = lexeme ++ rest ∧ SpellsToken lexeme t := by
  unfold next? at h
  split at h
  case h_10 cs' =>
    obtain ⟨⟨s, r⟩, hr, he⟩ := Option.map_eq_some_iff.mp h
    cases he
    obtain ⟨body, rfl, hbody⟩ := readString_eq_some hr
    refine ⟨'"' :: (body ++ ['"']), ?_, .string hbody⟩
    rw [List.cons_append, List.append_assoc]
    rfl
  case h_11 =>
    obtain ⟨⟨n, r⟩, hr, he⟩ := Option.map_eq_some_iff.mp h
    cases he
    obtain ⟨w, rfl, hw⟩ := readNumber_eq_some hr
    exact ⟨w, rfl, .number hw⟩
  all_goals
    cases h
    exact ⟨_, rfl, by constructor⟩

/-- Whatever is split up without a remainder consists of the lexemes. -/
theorem spellsTokens_ofText {cs : List Char} (h : .junk ∉ ofText cs) :
    SpellsTokens cs (ofText cs) := by
  fun_induction ofText cs with
  | case1 => exact .nil
  | case2 c cs hspace ih => exact .blank (isSpace_iff.mp hspace) (ih h)
  | case3 c cs _ t rest hnext ih =>
    obtain ⟨lexeme, hcs, ht⟩ := next?_eq_some hnext
    rw [hcs]
    exact .token ht (ih fun hjunk => h (List.mem_cons_of_mem t hjunk))
  | case4 => exact absurd List.mem_cons_self h

/-! ### Splitting at the right places -/

theorem ofText_of_next? {c : Char} {cs rest : List Char} {t : Token} (hspace : isSpace c = false)
    (hnext : next? (c :: cs) = some (t, rest)) : ofText (c :: cs) = t :: ofText rest := by
  rw [ofText, if_neg (by simp [hspace])]
  split
  next t' rest' h =>
    rw [hnext] at h
    cases h
    rfl
  next h =>
    rw [hnext] at h
    cases h

theorem notMem_of_numeral {c : Char} (hc : c = '-' ∨ c.isDigit) {cs : List Char}
    (hcs : cs.all fun d => d != '-' && !d.isDigit) : c ∉ cs := by
  intro hmem
  have hother := List.all_eq_true.mp hcs c hmem
  obtain rfl | hc := hc
  · exact absurd hother (by decide)
  · simp [hc] at hother

theorem next?_numeral {c : Char} (hc : c = '-' ∨ c.isDigit) (cs : List Char) :
    next? (c :: cs) = (readNumber (c :: cs)).map fun (n, rest) => (.number n, rest) := by
  have hother : c ∉ ['{', '}', '[', ']', ':', ',', 'n', 't', 'f', '"'] :=
    notMem_of_numeral hc rfl
  unfold next?
  split
  case h_11 => rfl
  all_goals
    next h =>
      obtain ⟨rfl, -⟩ := List.cons.inj h
      exact absurd (by simp) hother

/-- Whether a token is a number. -/
def isNumber : Token → Bool
  | .number _ => true
  | _ => false

/-- All are tokens, and no two numbers stand side by side. -/
def Separable : List Token → Prop
  | [] => True
  | t :: ts => t ≠ .junk ∧ (t.isNumber → ∀ u ∈ ts.head?, u.isNumber = false) ∧ Separable ts

theorem Separable.junk_notMem {ts : List Token} (h : Separable ts) : .junk ∉ ts := by
  induction ts with
  | nil => exact List.not_mem_nil
  | cons t ts ih =>
    obtain ⟨ht, -, hts⟩ := h
    intro hjunk
    rcases List.mem_cons.mp hjunk with hjunk | hjunk
    · exact ht hjunk.symm
    · exact ih hts hjunk

theorem SpellsNumber.head {cs : List Char} {n : NumberLiteral} (h : SpellsNumber cs n) :
    ∃ c cs', cs = c :: cs' ∧ (c = '-' ∨ c.isDigit) := by
  obtain ⟨whole, fraction, exponent, rfl, hw, -, -, -⟩ := h
  obtain ⟨c, cs, rfl⟩ := List.exists_cons_of_ne_nil hw.1.1
  cases n.negative with
  | true => exact ⟨'-', _, rfl, .inl rfl⟩
  | false => exact ⟨c, _, rfl, .inr (hw.1.2 c List.mem_cons_self)⟩

/-- A lexeme does not begin with a blank, and if it goes on like a number it is one. -/
theorem head_of_spellsToken {lexeme : List Char} {t : Token} (h : SpellsToken lexeme t) :
    ∃ c cs, lexeme = c :: cs ∧ isSpace c = false ∧
      (t.isNumber = false → c.isDigit = false ∧ c ≠ '.' ∧ c ≠ 'e' ∧ c ≠ 'E') := by
  cases h with
  | number hn =>
    obtain ⟨c, cs, rfl, hc⟩ := SpellsNumber.head hn
    refine ⟨c, cs, rfl, ?_, fun h => Bool.noConfusion h⟩
    have : c ∉ [' ', '\t', '\n', '\r'] := notMem_of_numeral hc rfl
    simpa [isSpace, and_assoc] using this
  | _ => exact ⟨_, _, rfl, by decide, fun _ => by decide⟩

theorem endsNumber_of_spellsTokens {cs : List Char} {ts : List Token} (h : SpellsTokens cs ts)
    (hts : ∀ t ∈ ts.head?, t.isNumber = false) : EndsNumber cs := by
  cases h with
  | nil => exact endsNumber_nil
  | blank hc _ =>
    refine endsNumber_cons _ ?_ _
    rcases hc with rfl | rfl | rfl | rfl <;> decide
  | token ht _ =>
    obtain ⟨c, cs, rfl, -, hc⟩ := head_of_spellsToken ht
    exact endsNumber_cons c (hc (hts _ rfl)) _

theorem next?_of_spells {lexeme : List Char} {t : Token} (h : SpellsToken lexeme t)
    {rest : List Char} (hrest : t.isNumber → EndsNumber rest) :
    next? (lexeme ++ rest) = some (t, rest) := by
  cases h with
  | number hn =>
    have hread := readNumber_of_spells hn (hrest rfl)
    obtain ⟨c, cs, rfl, hc⟩ := SpellsNumber.head hn
    rw [List.cons_append] at hread ⊢
    rw [next?_numeral hc, hread]
    rfl
  | string hs =>
    rw [List.cons_append, List.append_assoc]
    show (readString (_ ++ '"' :: rest)).map _ = _
    rw [readString_of_spells hs]
    rfl
  | _ => rfl

/-- Blanks and lexemes are split up again, unless two numbers run into one. -/
theorem ofText_of_spells {cs : List Char} {ts : List Token} (h : SpellsTokens cs ts)
    (hts : Separable ts) : ofText cs = ts := by
  induction h with
  | nil => rw [ofText]
  | blank hc _ ih => rw [ofText, if_pos (isSpace_iff.mpr hc), ih hts]
  | @token lexeme cs t ts ht hrest ih =>
    obtain ⟨-, hnumber, hts⟩ := hts
    have hnext := next?_of_spells ht fun h => endsNumber_of_spellsTokens hrest (hnumber h)
    obtain ⟨c, lexeme, rfl, hspace, -⟩ := head_of_spellsToken ht
    rw [List.cons_append] at hnext ⊢
    rw [ofText_of_next? hspace hnext, ih hts]

theorem ofText_eq_iff {cs : List Char} {ts : List Token} (hts : Separable ts) :
    ofText cs = ts ↔ SpellsTokens cs ts := by
  constructor
  · rintro rfl
    exact spellsTokens_ofText hts.junk_notMem
  · intro h
    exact ofText_of_spells h hts

end Token

/-! ### Tokens of a tree -/

namespace Tree

mutual

/-- The tokens of a tree that is complete. -/
def tokens : Tree → List Token
  | .broken => [.junk]
  | .null => [.null]
  | .bool b => [.bool b]
  | .number n => [.number n]
  | .string s => [.string s]
  | .array items _ => .openArray :: itemsTokens items ++ [.closeArray]
  | .object members _ => .openObject :: membersTokens members ++ [.closeObject]

/-- The tokens of the items of an array, with commas between them. -/
def itemsTokens : List Tree → List Token
  | [] => []
  | [t] => t.tokens
  | t :: u :: ts => t.tokens ++ .comma :: itemsTokens (u :: ts)

/-- The tokens of the members of an object, with commas between them. -/
def membersTokens : List (StringLiteral × Tree) → List Token
  | [] => []
  | [(k, t)] => .string k :: .colon :: t.tokens
  | (k, t) :: m :: ms => .string k :: .colon :: t.tokens ++ .comma :: membersTokens (m :: ms)

end

end Tree

/-- The text is the tree: the lexemes of its tokens, with blanks around them. -/
def Spells (s : String) (t : Tree) : Prop :=
  t.isComplete ∧ SpellsTokens s.toList t.tokens

namespace Tree

theorem allComplete_iff {ts : List Tree} : allComplete ts ↔ ∀ t ∈ ts, t.isComplete := by
  induction ts with
  | nil => exact iff_of_true rfl (List.forall_mem_nil _)
  | cons t ts ih => rw [allComplete, Bool.and_eq_true, ih, List.forall_mem_cons]

theorem allMembersComplete_iff {ms : List (StringLiteral × Tree)} :
    allMembersComplete ms ↔ ∀ m ∈ ms, m.2.isComplete := by
  induction ms with
  | nil => exact iff_of_true rfl (List.forall_mem_nil _)
  | cons m ms ih =>
    obtain ⟨k, t⟩ := m
    rw [allMembersComplete, Bool.and_eq_true, ih, List.forall_mem_cons]

/-- The tokens of items that are followed by others. -/
def itemsBefore (ts : List Tree) : List Token :=
  ts.flatMap fun t => t.tokens ++ [.comma]

theorem itemsTokens_concat (ts : List Tree) (t : Tree) :
    itemsTokens (ts ++ [t]) = itemsBefore ts ++ t.tokens := by
  induction ts with
  | nil => simp [itemsTokens, itemsBefore]
  | cons u ts ih =>
    obtain ⟨v, vs, hvs⟩ := List.exists_cons_of_ne_nil (List.concat_ne_nil t ts)
    rw [List.cons_append, hvs, itemsTokens, ← hvs, ih]
    simp [itemsBefore]

theorem itemsBefore_concat (ts : List Tree) (t : Tree) :
    itemsBefore (ts ++ [t]) = itemsBefore ts ++ (t.tokens ++ [.comma]) := by
  rw [itemsBefore, List.flatMap_append, List.flatMap_singleton]
  rfl

/-- The tokens of members that are followed by others. -/
def membersBefore (ms : List (StringLiteral × Tree)) : List Token :=
  ms.flatMap fun (k, t) => .string k :: .colon :: t.tokens ++ [.comma]

theorem membersTokens_concat (ms : List (StringLiteral × Tree)) (k : StringLiteral) (t : Tree) :
    membersTokens (ms ++ [(k, t)]) = membersBefore ms ++ .string k :: .colon :: t.tokens := by
  induction ms with
  | nil => simp [membersTokens, membersBefore]
  | cons m ms ih =>
    obtain ⟨l, u⟩ := m
    obtain ⟨n, ns, hns⟩ := List.exists_cons_of_ne_nil (List.concat_ne_nil (k, t) ms)
    rw [List.cons_append, hns, membersTokens, ← hns, ih]
    simp [membersBefore]

theorem membersBefore_concat (ms : List (StringLiteral × Tree)) (k : StringLiteral) (t : Tree) :
    membersBefore (ms ++ [(k, t)]) =
      membersBefore ms ++ (.string k :: .colon :: t.tokens ++ [.comma]) := by
  rw [membersBefore, List.flatMap_append, List.flatMap_singleton]
  rfl

end Tree

/-! ### Separating the tokens of a tree -/

namespace Tree

open Token (Separable)

/-- A token that is no number may stand anywhere. -/
theorem separable_cons {u : Token} (hu : u ≠ .junk) (hnumber : u.isNumber = false)
    {ts : List Token} (h : Separable ts) : Separable (u :: ts) :=
  ⟨hu, fun h => absurd (hnumber.symm.trans h) Bool.false_ne_true, h⟩

mutual

/-- The tokens of a complete tree can be told apart, unless a number follows. -/
theorem separable_tokens (t : Tree) (ht : t.isComplete) {rest : List Token}
    (hrest : Separable rest) (hhead : ∀ u ∈ rest.head?, u.isNumber = false) :
    Separable (t.tokens ++ rest) := by
  match t, ht with
  | .null, _ | .bool b, _ | .string s, _ => exact separable_cons (by simp) rfl hrest
  | .number n, _ => exact ⟨by simp, fun _ => hhead, hrest⟩
  | .array items closed, ht =>
    rw [tokens, List.append_assoc]
    exact separable_cons (by simp) rfl
      (separable_itemsTokens items (Bool.and_eq_true_iff.mp ht).1
        (separable_cons (by simp) rfl hrest) fun u hu => by cases hu; rfl)
  | .object members closed, ht =>
    rw [tokens, List.append_assoc]
    exact separable_cons (by simp) rfl
      (separable_membersTokens members (Bool.and_eq_true_iff.mp ht).1
        (separable_cons (by simp) rfl hrest) fun u hu => by cases hu; rfl)

theorem separable_itemsTokens (ts : List Tree) (hts : allComplete ts) {rest : List Token}
    (hrest : Separable rest) (hhead : ∀ u ∈ rest.head?, u.isNumber = false) :
    Separable (itemsTokens ts ++ rest) := by
  match ts, hts with
  | [], _ => exact hrest
  | [t], hts => exact separable_tokens t (Bool.and_eq_true_iff.mp hts).1 hrest hhead
  | t :: u :: ts, hts =>
    obtain ⟨ht, hus⟩ := Bool.and_eq_true_iff.mp hts
    rw [itemsTokens, List.append_assoc]
    exact separable_tokens t ht (separable_cons (by simp) rfl
      (separable_itemsTokens (u :: ts) hus hrest hhead)) fun v hv => by cases hv; rfl

theorem separable_membersTokens (ms : List (StringLiteral × Tree)) (hms : allMembersComplete ms)
    {rest : List Token} (hrest : Separable rest)
    (hhead : ∀ u ∈ rest.head?, u.isNumber = false) : Separable (membersTokens ms ++ rest) := by
  match ms, hms with
  | [], _ => exact hrest
  | [(k, t)], hms =>
    exact separable_cons (by simp) rfl (separable_cons (by simp) rfl
      (separable_tokens t (Bool.and_eq_true_iff.mp hms).1 hrest hhead))
  | (k, t) :: m :: ms, hms =>
    obtain ⟨ht, hms⟩ := Bool.and_eq_true_iff.mp hms
    rw [membersTokens, List.append_assoc]
    exact separable_cons (by simp) rfl (separable_cons (by simp) rfl
      (separable_tokens t ht (separable_cons (by simp) rfl
        (separable_membersTokens (m :: ms) hms hrest hhead)) fun v hv => by cases hv; rfl))

end

end Tree

/-! ### Putting tokens together -/

namespace Document

/-- No value begins with the end of an array. -/
theorem exists_itemsTokens_eq {t : Tree} (ht : t.isComplete) (us : List Tree) :
    ∃ u ts, Tree.itemsTokens (t :: us) = u :: ts ∧ u ≠ .closeArray := by
  have hhead : ∃ u ts, t.tokens = u :: ts ∧ u ≠ .closeArray := by
    cases t with
    | broken => cases ht
    | _ => exact ⟨_, _, rfl, by simp⟩
  obtain ⟨u, ts, hts, hu⟩ := hhead
  cases us with
  | nil => exact ⟨u, ts, hts, hu⟩
  | cons v vs => exact ⟨u, _, by rw [Tree.itemsTokens, hts, List.cons_append], hu⟩

theorem membersTokens_cons (k : StringLiteral) (t : Tree) (ms : List (StringLiteral × Tree)) :
    Tree.membersTokens ((k, t) :: ms) =
      .string k :: .colon :: (Tree.membersTokens ((k, t) :: ms)).drop 2 := by
  cases ms <;> rfl

mutual

/-- Where a value must come, the tokens of a tree are read as the tree. -/
theorem readValue_tokens (t : Tree) (ht : t.isComplete) (ts : List Token) (stack : List Frame) :
    readValue (t.tokens ++ ts) stack = readAfter ts stack t := by
  match t, ht with
  | .null, _ | .bool b, _ | .number n, _ | .string s, _ => rfl
  | .array [] true, _ | .object [] true, _ => rfl
  | .array (t :: us) true, ht =>
    have hitems : Tree.allComplete (t :: us) := (Bool.and_eq_true_iff.mp ht).1
    -- The array does not end right away, so its first item is read in a new frame.
    have hfirst : t.isComplete := (Bool.and_eq_true_iff.mp hitems).1
    obtain ⟨u, ts', hts, hu⟩ := exists_itemsTokens_eq hfirst us
    have hopen : readValue (.openArray :: (Tree.itemsTokens (t :: us) ++ .closeArray :: ts))
        stack = readValue (Tree.itemsTokens (t :: us) ++ .closeArray :: ts)
          (.array [] :: stack) := by
      rw [hts]
      exact readValue.eq_6 _ _ fun _ h => hu (List.cons.inj h).1
    rw [Tree.tokens, List.append_assoc, List.cons_append, List.singleton_append, hopen,
      readValue_itemsTokens t us hitems]
    rfl
  | .object ((k, t) :: ms) true, ht =>
    have hmembers : Tree.allMembersComplete ((k, t) :: ms) := (Bool.and_eq_true_iff.mp ht).1
    rw [Tree.tokens, membersTokens_cons, List.append_assoc, List.cons_append,
      List.cons_append, List.cons_append, List.singleton_append, readValue,
      readValue_membersTokens k t ms hmembers]
    rfl
  | .array items false, ht | .object members false, ht =>
    exact absurd (Bool.and_eq_true_iff.mp ht).2 Bool.false_ne_true
termination_by sizeOf t

/-- The items that are left of an array are read up to its end. -/
theorem readValue_itemsTokens (t : Tree) (us : List Tree) (h : Tree.allComplete (t :: us))
    (ts : List Token) (done : List Tree) (stack : List Frame) :
    readValue (Tree.itemsTokens (t :: us) ++ .closeArray :: ts) (.array done :: stack) =
      readAfter ts stack (.array (done.reverse ++ t :: us) true) := by
  obtain ⟨ht, hus⟩ := Bool.and_eq_true_iff.mp h
  cases us with
  | nil =>
    rw [Tree.itemsTokens, readValue_tokens t ht, readAfter, List.reverse_cons]
  | cons u us =>
    rw [Tree.itemsTokens, List.append_assoc, List.cons_append, readValue_tokens t ht, readAfter,
      readValue_itemsTokens u us hus, List.reverse_cons, List.append_assoc]
    rfl
termination_by sizeOf (t :: us)

/-- The members that are left of an object are read up to its end, the key of the
first one being read already. -/
theorem readValue_membersTokens (k : StringLiteral) (t : Tree) (ms : List (StringLiteral × Tree))
    (h : Tree.allMembersComplete ((k, t) :: ms)) (ts : List Token)
    (done : List (StringLiteral × Tree)) (stack : List Frame) :
    readValue ((Tree.membersTokens ((k, t) :: ms)).drop 2 ++ .closeObject :: ts)
        (.object done k :: stack) =
      readAfter ts stack (.object (done.reverse ++ (k, t) :: ms) true) := by
  obtain ⟨ht, hms⟩ := Bool.and_eq_true_iff.mp h
  match ms, hms with
  | [], _ =>
    show readValue (t.tokens ++ .closeObject :: ts) _ = _
    rw [readValue_tokens t ht, readAfter, List.reverse_cons]
  | (k', t') :: ms, hms =>
    show readValue (t.tokens ++ .comma :: Tree.membersTokens ((k', t') :: ms) ++
      .closeObject :: ts) _ = _
    rw [List.append_assoc, List.cons_append, readValue_tokens t ht, membersTokens_cons,
      List.cons_append, List.cons_append, readAfter, readValue_membersTokens k' t' ms hms,
      List.reverse_cons, List.append_assoc]
    rfl
termination_by sizeOf ((k, t) :: ms)

end

/-- The tokens that have been read since the containers on the stack were opened. -/
def openTokens : List Frame → List Token
  | [] => []
  | .array done :: stack => openTokens stack ++ .openArray :: Tree.itemsBefore done.reverse
  | .object done key :: stack =>
    openTokens stack ++ .openObject :: (Tree.membersBefore done.reverse ++ [.string key, .colon])

/-- What has been read of an open container is complete. -/
def Whole : Frame → Prop
  | .array done => Tree.allComplete done
  | .object done _ => Tree.allMembersComplete done

theorem complete_abandon (stack : List Frame) (t : Tree) : (abandon stack t).complete = false := by
  induction stack generalizing t with
  | nil => rfl
  | cons frame stack ih => exact ih _

theorem abandon_ne (stack : List Frame) (t u : Tree) : abandon stack t ≠ ⟨u, true⟩ := by
  intro h
  have hcomplete := complete_abandon stack t
  rw [h] at hcomplete
  cases hcomplete

theorem isComplete_array {done : List Tree} (h : Tree.allComplete done) :
    (Tree.array done.reverse true).isComplete := by
  rw [Tree.isComplete, Bool.and_true, Tree.allComplete_iff]
  intro t ht
  exact Tree.allComplete_iff.mp h t (List.mem_reverse.mp ht)

theorem isComplete_object {done : List (StringLiteral × Tree)} (h : Tree.allMembersComplete done) :
    (Tree.object done.reverse true).isComplete := by
  rw [Tree.isComplete, Bool.and_true, Tree.allMembersComplete_iff]
  intro m hm
  exact Tree.allMembersComplete_iff.mp h m (List.mem_reverse.mp hm)

/-- If the document comes out complete, its tokens are those that were open when the
value had been read, those of the value and those that were still to come. -/
def KeptAfter (d : Tree) (ts : List Token) (stack : List Frame) (t : Tree) : Prop :=
  (∀ frame ∈ stack, Whole frame) → t.isComplete → readAfter ts stack t = ⟨d, true⟩ →
    d.isComplete ∧ d.tokens = openTokens stack ++ (t.tokens ++ ts)

/-- No token is lost: those of a complete document are the ones that were open and
the ones that were still to come. -/
theorem tokens_of_readValue {ts : List Token} {stack : List Frame} {d : Tree}
    (hstack : ∀ frame ∈ stack, Whole frame) (h : readValue ts stack = ⟨d, true⟩) :
    d.isComplete ∧ d.tokens = openTokens stack ++ ts := by
  induction ts, stack using fun P => readValue.induct P (KeptAfter d) with
  -- a value without containers, or an empty one
  | case1 ts stack ih | case2 b ts stack ih | case3 n ts stack ih | case4 s ts stack ih
  | case5 ts stack ih | case7 ts stack ih => exact ih hstack rfl h
  -- a container is opened
  | case6 ts stack hclose ih =>
    rw [readValue.eq_6 _ _ hclose] at h
    obtain ⟨hd, htokens⟩ := ih (List.forall_mem_cons.mpr ⟨rfl, hstack⟩) h
    refine ⟨hd, ?_⟩
    rw [htokens, openTokens, List.append_assoc]
    rfl
  | case8 key ts stack ih =>
    obtain ⟨hd, htokens⟩ := ih (List.forall_mem_cons.mpr ⟨rfl, hstack⟩) h
    refine ⟨hd, ?_⟩
    rw [htokens, openTokens, List.append_assoc]
    rfl
  -- there is no value
  | case9 key ts stack hcolon =>
    rw [readValue.eq_9 _ _ _ hcolon] at h
    exact absurd h (abandon_ne _ _ _)
  | case10 ts stack hclose hcolon hkey =>
    rw [readValue.eq_10 _ _ hclose hcolon hkey] at h
    exact absurd h (abandon_ne _ _ _)
  | case11 ts stack h1 h2 h3 h4 h5 h6 h7 h8 h9 h10 =>
    rw [readValue.eq_11 _ _ h1 h2 h3 h4 h5 h6 h7 h8 h9 h10] at h
    exact absurd h (abandon_ne _ _ _)
  -- the text ends here
  | case12 ts t =>
    intro _ ht h
    rw [readAfter] at h
    obtain ⟨rfl, hend⟩ := Document.mk.inj h
    rw [List.isEmpty_iff.mp hend, List.append_nil]
    exact ⟨ht, rfl⟩
  -- a container goes on
  | case13 ts done stack t ih =>
    intro hstack ht h
    obtain ⟨hdone, hstack⟩ := List.forall_mem_cons.mp hstack
    have hdone' : Tree.allComplete (t :: done) := Bool.and_eq_true_iff.mpr ⟨ht, hdone⟩
    obtain ⟨hd, htokens⟩ := ih (List.forall_mem_cons.mpr ⟨hdone', hstack⟩) h
    refine ⟨hd, ?_⟩
    rw [htokens, openTokens, openTokens, List.reverse_cons, Tree.itemsBefore_concat]
    simp only [List.append_assoc, List.cons_append, List.nil_append]
  | case15 key' ts done key stack t ih =>
    intro hstack ht h
    obtain ⟨hdone, hstack⟩ := List.forall_mem_cons.mp hstack
    have hdone' : Tree.allMembersComplete ((key, t) :: done) :=
      Bool.and_eq_true_iff.mpr ⟨ht, hdone⟩
    obtain ⟨hd, htokens⟩ := ih (List.forall_mem_cons.mpr ⟨hdone', hstack⟩) h
    refine ⟨hd, ?_⟩
    rw [htokens, openTokens, openTokens, List.reverse_cons, Tree.membersBefore_concat]
    simp only [List.append_assoc, List.cons_append, List.nil_append]
  -- a container is closed
  | case14 ts done stack t ih =>
    intro hstack ht h
    obtain ⟨hdone, hstack⟩ := List.forall_mem_cons.mp hstack
    have hdone' : Tree.allComplete (t :: done) := Bool.and_eq_true_iff.mpr ⟨ht, hdone⟩
    obtain ⟨hd, htokens⟩ := ih hstack (isComplete_array hdone') h
    refine ⟨hd, ?_⟩
    rw [htokens, openTokens, Tree.tokens, List.reverse_cons, Tree.itemsTokens_concat]
    simp only [List.append_assoc, List.cons_append, List.nil_append]
  | case17 ts done key stack t ih =>
    intro hstack ht h
    obtain ⟨hdone, hstack⟩ := List.forall_mem_cons.mp hstack
    have hdone' : Tree.allMembersComplete ((key, t) :: done) :=
      Bool.and_eq_true_iff.mpr ⟨ht, hdone⟩
    obtain ⟨hd, htokens⟩ := ih hstack (isComplete_object hdone') h
    refine ⟨hd, ?_⟩
    rw [htokens, openTokens, Tree.tokens, List.reverse_cons, Tree.membersTokens_concat]
    simp only [List.append_assoc, List.cons_append, List.nil_append]
  -- a container neither goes on nor is closed
  | case16 key' ts done key stack t hcolon =>
    intro _ _ h
    rw [readAfter.eq_5 _ _ _ _ _ _ hcolon] at h
    exact absurd h (abandon_ne _ _ _)
  | case18 ts frame stack t h1 h2 h3 h4 h5 =>
    intro _ _ h
    rw [readAfter.eq_7 _ _ _ _ h1 h2 h3 h4 h5] at h
    exact absurd h (abandon_ne _ _ _)

theorem ofTokens_eq_iff {ts : List Token} {t : Tree} :
    ofTokens ts = ⟨t, true⟩ ↔ t.isComplete ∧ ts = t.tokens := by
  constructor
  · intro h
    obtain ⟨ht, htokens⟩ := tokens_of_readValue (List.forall_mem_nil _) h
    exact ⟨ht, htokens.symm⟩
  · rintro ⟨ht, rfl⟩
    have hread := readValue_tokens t ht [] []
    rw [List.append_nil] at hread
    rw [ofTokens, hread]
    rfl

theorem ofText_eq_iff {s : String} {t : Tree} : ofText s = ⟨t, true⟩ ↔ Spells s t := by
  rw [ofText, ofTokens_eq_iff, Spells]
  refine and_congr_right fun ht => ?_
  have hts : Token.Separable (t.tokens ++ []) :=
    Tree.separable_tokens t ht trivial fun u hu => by cases hu
  rw [List.append_nil] at hts
  exact Token.ofText_eq_iff hts

/-- A text is at most one tree. -/
theorem spells_unique {s : String} {t u : Tree} (ht : Spells s t) (hu : Spells s u) : t = u := by
  have h := (ofText_eq_iff.mpr ht).symm.trans (ofText_eq_iff.mpr hu)
  exact (Document.mk.inj h).1

end Document

end ExecutionLink.Json
