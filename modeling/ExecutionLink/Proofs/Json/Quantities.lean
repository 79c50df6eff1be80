/-
Which texts are numbers of 64 bits.

Such a number is written as a string of digits and read from a string or from a bare
integer.

* `SpellsQuantity` — the two forms: a string that comes to digits, with a plus sign or
  without one, and an integer without a sign.
* `QuantityText` — one of these forms with blanks around it.
* `Unquantified` — values that are no such number: other kinds of values, numbers with
  a sign, a fraction or an exponent, strings with anything else in them, and numbers
  that are too large.
* `quotedInteger_exact` — a text is read as a number exactly if it is written as the
  number; every other text is refused, and what is written is the form in quotes.
-/
import ExecutionLink.Proofs.Json.Grammar
import ExecutionLink.Proofs.Json.RoundTrip

namespace ExecutionLink.Json

open Text.Natural (SpellsNatural)

/-! ### Texts with a single token -/

/-- The blanks that may stand around a value. -/
def Blanks (cs : List Char) : Prop := ∀ c ∈ cs, Token.isSpace c

theorem spellsTokens_nil_iff {cs : List Char} : SpellsTokens cs [] ↔ Blanks cs := by
  constructor
  · intro h
    generalize hts : [] = ts at h
    induction h with
    | nil => exact List.forall_mem_nil _
    | blank hc _ ih => exact List.forall_mem_cons.mpr ⟨Token.isSpace_iff.mpr hc, ih hts⟩
    | token => cases hts
  · intro h
    induction cs with
    | nil => exact .nil
    | cons c cs ih =>
      obtain ⟨hc, hcs⟩ := List.forall_mem_cons.mp h
      exact .blank (Token.isSpace_iff.mp hc) (ih hcs)

/-- A text of one token is its lexeme with blanks around it. -/
theorem spellsTokens_singleton_iff {cs : List Char} {t : Token} :
    SpellsTokens cs [t] ↔ ∃ before lexeme after, cs = before ++ (lexeme ++ after) ∧
      Blanks before ∧ Blanks after ∧ SpellsToken lexeme t := by
  constructor
  · intro h
    generalize hts : [t] = ts at h
    induction h with
    | nil => cases hts
    | @blank c cs ts hc _ ih =>
      obtain ⟨before, lexeme, after, rfl, hbefore, hafter, ht⟩ := ih hts
      exact ⟨c :: before, lexeme, after, rfl,
        List.forall_mem_cons.mpr ⟨Token.isSpace_iff.mpr hc, hbefore⟩, hafter, ht⟩
    | @token lexeme cs u ts ht hrest =>
      obtain ⟨rfl, rfl⟩ := List.cons.inj hts
      exact ⟨[], lexeme, cs, rfl, List.forall_mem_nil _, spellsTokens_nil_iff.mp hrest, ht⟩
  · rintro ⟨before, lexeme, after, rfl, hbefore, hafter, ht⟩
    exact (spellsTokens_nil_iff.mpr hbefore).append
      (.token ht (spellsTokens_nil_iff.mpr hafter))

/-! ### The forms of a number -/

/-- What a number is written as: a string that comes to digits, behind a plus sign or
without one, or an integer without a sign. -/
inductive SpellsQuantity : List Char → Nat → Prop
  | quoted {body : List Char} {l : StringLiteral} {content : String} {n : Nat}
      (hbody : SpellsString body l) (hcontent : text? l = some content)
      (hdigits : SpellsNatural content.toList n) : SpellsQuantity ('"' :: (body ++ ['"'])) n
  | bare {digits : List Char} {n : Nat} (hdigits : IsWhole digits)
      (hvalue : Nat.ofDigitChars 10 digits 0 = n) : SpellsQuantity digits n

/-- The text is a number with blanks around it. -/
def QuantityText (s : String) (n : UInt64) : Prop :=
  ∃ before cs after, s.toList = before ++ (cs ++ after) ∧ Blanks before ∧ Blanks after ∧
    SpellsQuantity cs n.toNat

theorem ofDigits_eq_ofDigitChars {cs : List Char} {ds : List Nat} (h : SpellsDigits cs ds) :
    Number.ofDigits ds = Nat.ofDigitChars 10 cs 0 := by
  obtain ⟨-, rfl⟩ := h
  rw [Number.ofDigits, List.foldl_map, Nat.ofDigitChars]

theorem spellsNumber_integer {cs : List Char} {ds : List Nat} :
    SpellsNumber cs ⟨false, ds, none, none⟩ ↔ IsWhole cs ∧ SpellsDigits cs ds := by
  constructor
  · rintro ⟨whole, _, _, rfl, hwhole, hdigits, ⟨⟩, ⟨⟩⟩
    simpa using And.intro hwhole hdigits
  · rintro ⟨hwhole, hdigits⟩
    exact ⟨cs, [], [], by simp, hwhole, hdigits, .none, .none⟩

/-- What is written as a number spells a tree that holds the number. -/
theorem SpellsQuantity.exists_tree {cs : List Char} {n : UInt64} (h : SpellsQuantity cs n.toNat) :
    ∃ t token, t.isComplete ∧ t.tokens = [token] ∧ SpellsToken cs token ∧ IsQuantity n t := by
  generalize hm : n.toNat = m at h
  cases h with
  | @quoted body l content _ hbody hcontent hdigits =>
    subst hm
    exact ⟨.string l, _, rfl, rfl, .string hbody,
      .inl ⟨content, ⟨l, rfl, hcontent⟩, Text.Natural.read_eq_ok.mpr hdigits⟩⟩
  | bare hwhole hvalue =>
    have hdigits : SpellsDigits cs (cs.map fun c => c.toNat - '0'.toNat) := ⟨hwhole.1, rfl⟩
    refine ⟨.number ⟨false, _, none, none⟩, _, rfl, rfl,
      .number (spellsNumber_integer.mpr ⟨hwhole, hdigits⟩), .inr ⟨_, rfl, rfl, rfl, rfl, ?_⟩⟩
    rw [ofDigits_eq_ofDigitChars hdigits, hvalue, hm]

/-- A tree that holds a number is a single token, and its lexemes are the forms of the
number. -/
theorem IsQuantity.exists_token {n : UInt64} {t : Tree} (h : IsQuantity n t) :
    ∃ token, t.tokens = [token] ∧
      ∀ lexeme, SpellsToken lexeme token → SpellsQuantity lexeme n.toNat := by
  obtain ⟨content, ⟨l, rfl, hl⟩, hread⟩ | ⟨l, rfl, h⟩ := h
  · refine ⟨.string l, rfl, fun lexeme hlexeme => ?_⟩
    cases hlexeme with
    | string hbody => exact .quoted hbody hl (Text.Natural.read_eq_ok.mp hread)
  · refine ⟨.number l, rfl, fun lexeme hlexeme => ?_⟩
    cases hlexeme with
    | number hnumber =>
      obtain ⟨negative, ds, fraction, exponent⟩ := l
      obtain ⟨rfl, rfl, rfl, hvalue⟩ := h
      obtain ⟨hwhole, hdigits⟩ := spellsNumber_integer.mp hnumber
      exact .bare hwhole (by rw [← ofDigits_eq_ofDigitChars hdigits, hvalue])

theorem quantityText_iff {s : String} {n : UInt64} :
    QuantityText s n ↔ ∃ t, Spells s t ∧ IsQuantity n t := by
  constructor
  · rintro ⟨before, cs, after, hs, hbefore, hafter, hcs⟩
    obtain ⟨t, token, hcomplete, htokens, htoken, ht⟩ := hcs.exists_tree
    refine ⟨t, ⟨hcomplete, ?_⟩, ht⟩
    rw [htokens, spellsTokens_singleton_iff]
    exact ⟨before, cs, after, hs, hbefore, hafter, htoken⟩
  · rintro ⟨t, ⟨-, htokens⟩, ht⟩
    obtain ⟨token, hsingle, hlexemes⟩ := ht.exists_token
    rw [hsingle, spellsTokens_singleton_iff] at htokens
    obtain ⟨before, cs, after, hs, hbefore, hafter, htoken⟩ := htokens
    exact ⟨before, cs, after, hs, hbefore, hafter, hlexemes cs htoken⟩

/-- A text spells no two trees, so any tree that it spells tells whether it is a number. -/
theorem isQuantity_iff {s : String} {t : Tree} (hspells : Spells s t) {n : UInt64} :
    IsQuantity n t ↔ QuantityText s n := by
  rw [quantityText_iff]
  constructor
  · intro h
    exact ⟨t, hspells, h⟩
  · rintro ⟨u, hu, h⟩
    rw [Document.spells_unique hspells hu]
    exact h

/-! ### Everything else -/

/-- Values that are no number of 64 bits. -/
inductive Unquantified : Tree → Prop
  | null : Unquantified .null
  | bool (b : Bool) : Unquantified (.bool b)
  | array (items : List Tree) (closed : Bool) : Unquantified (.array items closed)
  | object (members : List (StringLiteral × Tree)) (closed : Bool) :
      Unquantified (.object members closed)
  /-- Below zero, or zero with a sign. -/
  | signed {l : NumberLiteral} (h : l.negative) : Unquantified (.number l)
  | fraction {l : NumberLiteral} (h : l.fraction ≠ none) : Unquantified (.number l)
  | exponent {l : NumberLiteral} (h : l.exponent ≠ none) : Unquantified (.number l)
  | large {l : NumberLiteral} (h : 2 ^ 64 ≤ Number.ofDigits l.whole) : Unquantified (.number l)
  | largeQuoted {l : StringLiteral} {content : String} {n : Nat} (hl : text? l = some content)
      (hdigits : SpellsNatural content.toList n) (h : 2 ^ 64 ≤ n) : Unquantified (.string l)
  | empty {l : StringLiteral} (h : text? l = some "") : Unquantified (.string l)
  /-- A blank, a sign other than a plus in front, a point or any other character. -/
  | other {l : StringLiteral} {content : String} {c : Char} (hl : text? l = some content)
      (hc : c ∈ content.toList) (hdigit : c.isDigit = false) (hplus : c ≠ '+') :
      Unquantified (.string l)

/-- A string is a number of 64 bits exactly if its content is written as the number. -/
theorem isQuantity_string_iff {l : StringLiteral} {n : UInt64} :
    IsQuantity n (.string l) ↔
      ∃ content, text? l = some content ∧ SpellsNatural content.toList n.toNat := by
  constructor
  · rintro (⟨content, ⟨_, ⟨⟩, hl⟩, hread⟩ | ⟨_, ⟨⟩, _⟩)
    exact ⟨content, hl, Text.Natural.read_eq_ok.mp hread⟩
  · rintro ⟨content, hl, hdigits⟩
    exact .inl ⟨content, ⟨l, rfl, hl⟩, Text.Natural.read_eq_ok.mpr hdigits⟩

theorem isQuantity_number_iff {l : NumberLiteral} {n : UInt64} :
    IsQuantity n (.number l) ↔ l.negative = false ∧ l.fraction = none ∧ l.exponent = none ∧
      Number.ofDigits l.whole = n.toNat := by
  constructor
  · rintro (⟨_, ⟨_, ⟨⟩, _⟩, _⟩ | ⟨_, ⟨⟩, h⟩)
    exact h
  · intro h
    exact .inr ⟨l, rfl, h⟩

theorem Unquantified.not_isQuantity {t : Tree} (h : Unquantified t) (n : UInt64) :
    ¬IsQuantity n t := by
  have hlt : n.toNat < 2 ^ 64 := n.toNat_lt
  cases h with
  | null | bool | array | object => rintro (⟨_, ⟨_, ⟨⟩, _⟩, _⟩ | ⟨_, ⟨⟩, _⟩)
  | signed hsign =>
    rw [isQuantity_number_iff]
    rintro ⟨hpositive, -⟩
    exact Bool.false_ne_true (hpositive.symm.trans hsign)
  | fraction hfraction =>
    rw [isQuantity_number_iff]
    rintro ⟨-, hnone, -⟩
    exact hfraction hnone
  | exponent hexponent =>
    rw [isQuantity_number_iff]
    rintro ⟨-, -, hnone, -⟩
    exact hexponent hnone
  | large hlarge =>
    rw [isQuantity_number_iff]
    rintro ⟨-, -, -, hvalue⟩
    omega
  | largeQuoted hl hdigits hlarge =>
    rw [isQuantity_string_iff]
    rintro ⟨content, hcontent, hspells⟩
    obtain rfl := Option.some.inj (hl.symm.trans hcontent)
    have := hdigits.unique hspells
    omega
  | empty hl =>
    rw [isQuantity_string_iff]
    rintro ⟨content, hcontent, hspells⟩
    obtain rfl := Option.some.inj (hl.symm.trans hcontent)
    exact hspells.ne_nil rfl
  | other hl hc hdigit hplus =>
    rw [isQuantity_string_iff]
    rintro ⟨content, hcontent, hspells⟩
    obtain rfl := Option.some.inj (hl.symm.trans hcontent)
    obtain rfl | h := hspells.plus_or_isDigit hc
    · exact hplus rfl
    · exact Bool.false_ne_true (hdigit.symm.trans h)

/-! ### What is written -/

/-- A bare number is kept as it was written. -/
theorem ofLiteral?_literal_natural (n : UInt64) :
    Number.ofLiteral? (Number.natural n).literal = some (.natural n) := by
  have hdigits : SpellsDigits (Number.naturalText n.toNat)
      ((Number.naturalText n.toNat).map fun c => c.toNat - '0'.toNat) :=
    ⟨isDigits_naturalText n.toNat, rfl⟩
  have hread := readNumber_of_spells
    (spellsNumber_integer.mpr ⟨isWhole_naturalText n.toNat, hdigits⟩) endsNumber_nil
  rw [List.append_nil] at hread
  rw [Number.literal, Number.chars, hread, Option.map_some, Option.getD_some, natural_of_literal]
  refine ⟨rfl, rfl, rfl, ?_⟩
  rw [ofDigits_eq_ofDigitChars hdigits]
  exact Nat.ofDigitChars_ten_toDigits

theorem escape_of_isDigit {c : Char} (hc : c.isDigit) : Value.escape c = [c] := by
  have hne {d : Char} (hd : d.isDigit = false) : c ≠ d := by
    rintro rfl
    exact Bool.false_ne_true (hd.symm.trans hc)
  have hprintable : ¬c.toNat < 0x20 := by
    have : '0'.toNat ≤ c.toNat := (Char.isDigit_iff_toNat.mp hc).1
    exact Nat.not_lt.mpr (Nat.le_trans (by decide) this)
  unfold Value.escape
  rw [if_neg (hne (by decide)), if_neg (hne (by decide)), if_neg (hne (by decide)),
    if_neg (hne (by decide)), if_neg (hne (by decide)), if_neg (hne (by decide)),
    if_neg (hne (by decide)), if_neg hprintable]

theorem render_string_digits {s : String} (hdigits : ∀ c ∈ s.toList, c.isDigit) :
    (Value.string s).render = "\"" ++ s ++ "\"" := by
  have hescape : s.toList.flatMap Value.escape = s.toList := by
    rw [List.flatMap_congr fun c hc => escape_of_isDigit (hdigits c hc), List.flatMap_singleton']
  rw [← String.toList_inj, Value.render, String.toList_ofList, Value.chars, Value.stringChars,
    hescape, String.toList_append, String.toList_append]
  rfl

namespace Format

/-- A text is read as a number of 64 bits exactly if it is a string that comes to the
digits of the number, with or without a plus sign, or the bare number; it is read alike
wherever it stands in a document.  Every other text is refused: null, truth values,
arrays and objects, numbers with a sign, a fraction or an exponent, blank and padded
strings, and numbers that are too large.  A number is written as its digits in quotes, which
are read as the number. -/
theorem quotedInteger_exact :
    (∀ s n, quotedInteger.read s = .ok n ↔ QuantityText s n) ∧
    (∀ s t room n, Spells s t → (quotedInteger.decode room t = .ok n ↔ QuantityText s n)) ∧
    (∀ s, (∃ fault, quotedInteger.read s = .error fault) ↔ ∀ n, ¬QuantityText s n) ∧
    (∀ s t, Spells s t → Unquantified t → ∀ n, ¬QuantityText s n) ∧
    ∀ n, quotedInteger.write n = "\"" ++ toString n.toNat ++ "\"" ∧
      quotedInteger.read (quotedInteger.write n) = .ok n := by
  have hread (s : String) (n : UInt64) : quotedInteger.read s = .ok n ↔ QuantityText s n := by
    rw [quantityText_iff, reads_quotedInteger.read_eq_ok (Nat.zero_le documentRoom)]
  refine ⟨hread, fun s t room n hspells => ?_, fun s => ?_, fun s t hspells ht n => ?_,
    fun n => ⟨?_, ?_⟩⟩
  · rw [reads_quotedInteger room t n (Nat.zero_le room) hspells.1, isQuantity_iff hspells]
  · simp only [← hread]
    cases quotedInteger.read s with
    | ok n => exact iff_of_false nofun fun h => h n rfl
    | error fault => exact iff_of_true ⟨fault, rfl⟩ nofun
  · rw [← isQuantity_iff hspells]
    exact ht.not_isQuantity n
  · exact render_string_digits fun _ => Text.Natural.isDigit_of_mem_render
  · exact (faithful_quotedInteger.lossless (Nat.zero_le documentRoom)).1 n

end Format

end ExecutionLink.Json
