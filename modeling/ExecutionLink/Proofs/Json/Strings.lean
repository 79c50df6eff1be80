/-
Written texts are read back as string literals.

A character is written as one piece, but not always as the piece one might
expect: control characters without a short escape come back as units, which
stand for characters only together with what follows them.

* `readString_literal` — a written text is read up to its closing quote.
* `text?_literal` — the literal it is read as stands for the text.
-/
import ExecutionLink.Json.Value
import ExecutionLink.Proofs.Bytes.Hex
import Mathlib.Tactic.SplitIfs

namespace ExecutionLink.Json

/-- The piece a written character is read as. -/
def Value.piece (c : Char) : Piece :=
  if c.toNat < 0x20 ∧ c ∉ ['\x08', '\x0c', '\n', '\r', '\t'] then .unit c.toNat else .char c

/-- The literal a written text is read as. -/
def Value.literal (s : String) : StringLiteral :=
  s.toList.map piece

theorem hexDigit?_digit {n : Nat} (h : n < 16) : hexDigit? (Hex.digit n) = some n := by
  rw [hexDigit?, if_pos (Hex.digit_toNat_lt n h), Hex.value?_digit n h]

theorem unit?_digits {n : Nat} (h : n < 65536) :
    unit? (Hex.digit (n / 4096)) (Hex.digit (n / 256 % 16)) (Hex.digit (n / 16 % 16))
      (Hex.digit (n % 16)) = some n := by
  have hsum : 4096 * (n / 4096) + 256 * (n / 256 % 16) + 16 * (n / 16 % 16) + n % 16 = n := by
    omega
  rw [unit?, hexDigit?_digit (by omega), hexDigit?_digit (by omega), hexDigit?_digit (by omega),
    hexDigit?_digit (by omega)]
  exact congrArg some hsum

theorem readString_short {c e : Char} (h : shortEscape? c = some e) (cs : List Char) :
    readString ('\\' :: c :: cs) = (readString cs).map (consPiece (.char e)) := by
  have hu : c ≠ 'u' := by
    rintro rfl
    cases h
  rw [readString.eq_4 c cs fun _ _ _ _ _ hc _ => hu hc, h]

theorem readString_plain {c : Char} (hquote : c ≠ '"') (hslash : c ≠ '\\')
    (hcontrol : ¬c.toNat < 0x20) (cs : List Char) :
    readString (c :: cs) = (readString cs).map (consPiece (.char c)) := by
  rw [readString.eq_5 c cs hquote (fun _ _ _ _ _ hc _ => hslash hc) fun _ _ hc _ => hslash hc,
    if_neg (not_or.mpr ⟨hslash, hcontrol⟩)]

/-- What a character is written as is read as one piece. -/
theorem readString_escape (c : Char) (cs : List Char) :
    readString (Value.escape c ++ cs) = (readString cs).map (consPiece (Value.piece c)) := by
  unfold Value.escape
  split_ifs with hquote hslash hb hf hn hr ht hcontrol
  -- the short escapes
  iterate 7
    · subst c
      exact readString_short rfl cs
  · have hpiece : Value.piece c = .unit c.toNat := if_pos ⟨hcontrol, by simp [hb, hf, hn, hr, ht]⟩
    rw [hpiece]
    show readString ('\\' :: 'u' :: (Value.unitDigits c.toNat ++ cs)) = _
    rw [Value.unitDigits]
    show readString ('\\' :: 'u' :: _ :: _ :: _ :: _ :: cs) = _
    rw [readString.eq_3, unit?_digits (by omega)]
  · have hpiece : Value.piece c = .char c := if_neg fun h => hcontrol h.1
    rw [hpiece]
    exact readString_plain hquote hslash hcontrol cs

/-- A written text is read up to its closing quote. -/
theorem readString_literal (s : String) (rest : List Char) :
    readString (s.toList.flatMap Value.escape ++ '"' :: rest) = some (Value.literal s, rest) := by
  unfold Value.literal
  induction s.toList with
  | nil => rfl
  | cons c cs ih =>
    rw [List.flatMap_cons, List.append_assoc, readString_escape, ih]
    rfl

/-- Only from 0xd800 on a unit is half of a pair. -/
theorem isHigh_eq_false_of_lt {u : Nat} (hu : u < 0xd800) : Text.Utf16.isHigh u = false :=
  Bool.and_eq_false_iff.mpr (.inl (decide_eq_false (Nat.not_le.mpr hu)))

theorem isLow_eq_false_of_lt {u : Nat} (hu : u < 0xd800) : Text.Utf16.isLow u = false :=
  Bool.and_eq_false_iff.mpr (.inl (decide_eq_false (by omega)))

/-- A unit that is no half of a pair stands for its character, whatever follows. -/
theorem characters?_unit {u : Nat} (hu : u < 0xd800) (ps : StringLiteral) :
    characters? (.unit u :: ps) = (characters? ps).map (Char.ofNat u :: ·) := by
  have hhigh := isHigh_eq_false_of_lt hu
  have hlow := isLow_eq_false_of_lt hu
  cases ps with
  | nil =>
    simp only [characters?, hhigh, hlow, Bool.or_self, Bool.false_eq_true, if_false,
      Option.map_some]
  | cons p ps =>
    cases p <;>
      simp only [characters?, hhigh, hlow, Bool.or_self, Bool.false_eq_true, if_false]

theorem characters?_piece (c : Char) (ps : StringLiteral) :
    characters? (Value.piece c :: ps) = (characters? ps).map (c :: ·) := by
  unfold Value.piece
  split
  next h => rw [characters?_unit (by omega), Char.ofNat_toNat]
  next => rw [characters?]

/-- What a written text is read as stands for the text. -/
theorem text?_literal (s : String) : text? (Value.literal s) = some s := by
  have hchars (cs : List Char) : characters? (cs.map Value.piece) = some cs := by
    induction cs with
    | nil => rfl
    | cons c cs ih => rw [List.map_cons, characters?_piece, ih, Option.map_some]
  rw [text?, Value.literal, hchars, Option.map_some, String.ofList_toList]

end ExecutionLink.Json
