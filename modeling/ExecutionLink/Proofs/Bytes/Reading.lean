/-
Exactly which texts are byte strings of a given length.

The digits of a text are what stands behind one marker `0x`, if it begins with one
(`FixedBytes.digitsOf`).  They are looked at as bytes, so a character that is no digit
may spoil the count before it is met.

* `Hex.IsDigit` — the digits, of either case.
* `Hex.decodePairs_of_digits`, `Hex.decodePairs_of_first` — digits in pairs stand for
  bytes, whose own digits are these in lower case; the first byte that is no digit is
  reported with its position.
* `FixedBytes.FaultOf` — what is wrong with a text: the parity, else the first byte
  that is no digit, else the number of bytes.
* `FixedBytes.parse_exact` — texts with twice as many digits as bytes are read, and
  written again they are the same in lower case; all other texts have the one fault.
-/
import ExecutionLink.Proofs.Bytes.Hex
import Mathlib.Data.List.Induction

namespace ExecutionLink

namespace Hex

/-! ### Digits -/

/-- A hexadecimal digit of either case. -/
def IsDigit (c : Char) : Prop :=
  c.isDigit ∨ 'A' ≤ c ∧ c ≤ 'F' ∨ 'a' ≤ c ∧ c ≤ 'f'

/-- The character with the number of a byte. -/
def charOf (b : UInt8) : Char :=
  Char.ofNat b.toNat

theorem toNat_charOf (b : UInt8) : (charOf b).toNat = b.toNat := by
  have hb : b.toNat < 256 := b.toNat_lt
  have hvalid : b.toNat.isValidChar := .inl (by omega)
  rw [charOf, Char.ofNat, dif_pos hvalid]
  rfl

theorem charOf_ofNat {c : Char} (h : c.toNat < 128) : charOf (UInt8.ofNat c.toNat) = c := by
  rw [charOf, UInt8.toNat_ofNat_of_lt' (by omega : c.toNat < 256), Char.ofNat_toNat]

theorem isDigit_iff {c : Char} : IsDigit c ↔
    0x30 ≤ c.toNat ∧ c.toNat ≤ 0x39 ∨ 0x41 ≤ c.toNat ∧ c.toNat ≤ 0x46 ∨
      0x61 ≤ c.toNat ∧ c.toNat ≤ 0x66 := by
  unfold IsDigit
  rw [Char.isDigit_iff_toNat]
  simp only [Char.le_def, UInt32.le_iff_toNat_le]
  exact Iff.rfl

/-- The digits of both cases in lower case, by their ranges. -/
theorem toLower_digits :
    (∀ v < 10, (Char.ofNat (0x30 + v)).toLower = digit v) ∧
    (∀ v < 6, (Char.ofNat (0x41 + v)).toLower = digit (v + 10)) ∧
    ∀ v < 6, (Char.ofNat (0x61 + v)).toLower = digit (v + 10) := by
  decide

theorem value?_of_isDigit {b : UInt8} (h : IsDigit (charOf b)) :
    ∃ v < 16, value? b = some v ∧ digit v = (charOf b).toLower := by
  rw [isDigit_iff, toNat_charOf] at h
  obtain ⟨hnumber, hupper, hlower⟩ := toLower_digits
  unfold value? charOf
  rcases h with h | h | h
  · refine ⟨b.toNat - 0x30, by omega, if_pos h, ?_⟩
    rw [← hnumber _ (by omega), Nat.add_sub_cancel' h.1]
  · refine ⟨b.toNat - 0x41 + 10, by omega, ?_, ?_⟩
    · rw [if_neg (by omega), if_pos h]
    · rw [← hupper _ (by omega), Nat.add_sub_cancel' h.1]
  · refine ⟨b.toNat - 0x61 + 10, by omega, ?_, ?_⟩
    · rw [if_neg (by omega), if_neg (by omega), if_pos h]
    · rw [← hlower _ (by omega), Nat.add_sub_cancel' h.1]

theorem value?_of_not_isDigit {b : UInt8} (h : ¬IsDigit (charOf b)) : value? b = none := by
  rw [isDigit_iff, toNat_charOf] at h
  unfold value?
  rw [if_neg (by omega), if_neg (by omega), if_neg (by omega)]

theorem valueAt_of_isDigit {b : UInt8} (h : IsDigit (charOf b)) (position : Nat) :
    ∃ v < 16, valueAt b position = .ok v ∧ digit v = (charOf b).toLower := by
  obtain ⟨v, hv, hvalue, hdigit⟩ := value?_of_isDigit h
  exact ⟨v, hv, by rw [valueAt, hvalue], hdigit⟩

theorem valueAt_of_not_isDigit {b : UInt8} (h : ¬IsDigit (charOf b)) (position : Nat) :
    valueAt b position = .error (.invalidDigit b position) := by
  rw [valueAt, value?_of_not_isDigit h]

theorem digits_ofNat {x y : Nat} (hx : x < 16) (hy : y < 16) :
    digits (UInt8.ofNat (16 * x + y)) = [digit x, digit y] := by
  have hbyte : (UInt8.ofNat (16 * x + y)).toNat = 16 * x + y :=
    UInt8.toNat_ofNat_of_lt' (by omega : 16 * x + y < 256)
  rw [digits, hbyte, show (16 * x + y) / 16 = x by omega, show (16 * x + y) % 16 = y by omega]

/-! ### Pairs of digits -/

/-- Digits in pairs stand for bytes, and the digits of these are the same in lower
case. -/
theorem decodePairs_of_digits {bs : List UInt8} (h : ∀ b ∈ bs, IsDigit (charOf b))
    (heven : bs.length % 2 = 0) (position : Nat) :
    ∃ out, decodePairs position bs = .ok out ∧
      encode out = (bs.map charOf).map Char.toLower := by
  induction bs using List.twoStepInduction generalizing position with
  | nil => exact ⟨[], rfl, rfl⟩
  | singleton b =>
    rw [List.length_singleton] at heven
    omega
  | cons_cons a b rest ih _ =>
    obtain ⟨ha, hb, hrest⟩ : IsDigit (charOf a) ∧ IsDigit (charOf b) ∧
        ∀ b ∈ rest, IsDigit (charOf b) := by
      rwa [List.forall_mem_cons, List.forall_mem_cons] at h
    have heven' : rest.length % 2 = 0 := by
      rw [List.length_cons, List.length_cons] at heven
      omega
    obtain ⟨x, hx, hhigh, hdigitx⟩ := valueAt_of_isDigit ha position
    obtain ⟨y, hy, hlow, hdigity⟩ := valueAt_of_isDigit hb (position + 1)
    obtain ⟨out, hout, hencode⟩ := ih hrest heven' (position + 2)
    refine ⟨UInt8.ofNat (16 * x + y) :: out, ?_, ?_⟩
    · rw [decodePairs, hhigh, hlow, hout]
      rfl
    · rw [encode, List.flatMap_cons, digits_ofNat hx hy, hdigitx, hdigity, ← encode, hencode]
      rfl

/-- The first byte that is no digit is reported. -/
theorem decodePairs_of_first {before after : List UInt8} {b : UInt8}
    (hbefore : ∀ x ∈ before, IsDigit (charOf x)) (hb : ¬IsDigit (charOf b))
    (heven : (before ++ b :: after).length % 2 = 0) (position : Nat) :
    decodePairs position (before ++ b :: after) =
      .error (.invalidDigit b (position + before.length)) := by
  induction before using List.twoStepInduction generalizing position with
  | nil =>
    -- the byte is the first of a pair
    cases after with
    | nil => exact absurd heven Nat.one_ne_zero
    | cons c after =>
      rw [List.nil_append, decodePairs, valueAt_of_not_isDigit hb]
      rfl
  | singleton x =>
    obtain ⟨v, -, hv, -⟩ := valueAt_of_isDigit (hbefore x List.mem_cons_self) position
    rw [List.cons_append, List.nil_append, decodePairs, hv, valueAt_of_not_isDigit hb]
    rfl
  | cons_cons x y before ih _ =>
    obtain ⟨hx, hy, hbefore'⟩ : IsDigit (charOf x) ∧ IsDigit (charOf y) ∧
        ∀ b ∈ before, IsDigit (charOf b) := by
      rwa [List.forall_mem_cons, List.forall_mem_cons] at hbefore
    have heven' : (before ++ b :: after).length % 2 = 0 := by
      rw [List.cons_append, List.cons_append, List.length_cons, List.length_cons] at heven
      omega
    obtain ⟨v, -, hv, -⟩ := valueAt_of_isDigit hx position
    obtain ⟨w, -, hw, -⟩ := valueAt_of_isDigit hy (position + 1)
    rw [List.cons_append, List.cons_append, decodePairs, hv, hw, ih hbefore' heven' (position + 2),
      List.length_cons, List.length_cons,
      show position + 2 + before.length = position + (before.length + 1 + 1) by omega]
    rfl

/-! ### Characters -/

theorem utf8EncodeChar_of_lt {c : Char} (h : c.toNat < 128) :
    String.utf8EncodeChar c = [UInt8.ofNat c.toNat] :=
  if_pos (Nat.le_of_lt_succ h)

/-- A character that is no digit of its own has a byte that is none. -/
theorem isDigit_of_utf8 {c : Char} (h : ∀ b ∈ String.utf8EncodeChar c, IsDigit (charOf b)) :
    IsDigit c := by
  by_cases hc : c.toNat < 128
  · rw [utf8EncodeChar_of_lt hc, List.forall_mem_singleton, charOf_ofNat hc] at h
    exact h
  · -- the first byte of a longer form is beyond all digits
    have hfirst : ∃ b ∈ String.utf8EncodeChar c, 128 ≤ b.toNat := by
      have hv : ¬c.val.toNat ≤ 127 := fun hle => hc (Nat.lt_succ_of_le hle)
      unfold String.utf8EncodeChar
      rw [if_neg hv]
      split_ifs <;> refine ⟨_, List.mem_cons_self, ?_⟩ <;> rw [UInt8.toNat_ofNat'] <;> omega
    obtain ⟨b, hb, hlarge⟩ := hfirst
    have hdigit := h b hb
    rw [isDigit_iff, toNat_charOf] at hdigit
    omega

theorem IsDigit.toNat_lt {c : Char} (h : IsDigit c) : c.toNat < 128 := by
  rw [isDigit_iff] at h
  omega

/-- The bytes of a text are digits if its characters are. -/
theorem forall_utf8_isDigit {cs : List Char} :
    (∀ b ∈ cs.flatMap String.utf8EncodeChar, IsDigit (charOf b)) ↔ ∀ c ∈ cs, IsDigit c := by
  rw [List.forall_mem_flatMap]
  refine forall₂_congr fun c _ => ⟨isDigit_of_utf8, fun h => ?_⟩
  rw [utf8EncodeChar_of_lt h.toNat_lt, List.forall_mem_singleton, charOf_ofNat h.toNat_lt]
  exact h

/-- Digits are the same as bytes and as characters. -/
theorem map_charOf_utf8 {cs : List Char} (h : ∀ c ∈ cs, IsDigit c) :
    (cs.flatMap String.utf8EncodeChar).map charOf = cs := by
  induction cs with
  | nil => rfl
  | cons c cs ih =>
    obtain ⟨hc, hcs⟩ := List.forall_mem_cons.mp h
    rw [List.flatMap_cons, utf8EncodeChar_of_lt hc.toNat_lt, List.map_append, ih hcs,
      List.map_singleton, charOf_ofNat hc.toNat_lt, List.singleton_append]

theorem length_utf8_of_digits {cs : List Char} (h : ∀ c ∈ cs, IsDigit c) :
    (cs.flatMap String.utf8EncodeChar).length = cs.length := by
  rw [← List.length_map charOf, map_charOf_utf8 h]

theorem length_encode (bs : List UInt8) : (encode bs).length = 2 * bs.length := by
  rw [encode, List.length_flatMap]
  induction bs with
  | nil => rfl
  | cons b bs ih =>
    rw [List.map_cons, List.sum_cons, ih, List.length_cons]
    show 2 + 2 * bs.length = _
    omega

/-- A list of bytes that are not all digits has a first one that is none. -/
theorem exists_first {bs : List UInt8} (h : ¬∀ b ∈ bs, IsDigit (charOf b)) :
    ∃ before b after, bs = before ++ b :: after ∧ ¬IsDigit (charOf b) ∧
      ∀ x ∈ before, IsDigit (charOf x) := by
  induction bs with
  | nil => exact absurd (List.forall_mem_nil _) h
  | cons a bs ih =>
    by_cases ha : IsDigit (charOf a)
    · obtain ⟨before, b, after, rfl, hb, hbefore⟩ :=
        ih fun hbs => h (List.forall_mem_cons.mpr ⟨ha, hbs⟩)
      exact ⟨a :: before, b, after, rfl, hb, List.forall_mem_cons.mpr ⟨ha, hbefore⟩⟩
    · exact ⟨[], a, bs, rfl, ha, List.forall_mem_nil _⟩

end Hex

namespace FixedBytes

variable {n : Nat} {s : String}

/-! ### Texts -/

/-- What stands behind the marker, if the text begins with one. -/
def digitsOf (s : String) : List Char :=
  if ['0', 'x'] <+: s.toList then s.toList.drop 2 else s.toList

/-- What is wrong with a text. -/
def FaultOf (n : Nat) (s : String) (fault : ParseFault) : Prop :=
  let bytes := (digitsOf s).flatMap String.utf8EncodeChar
  match fault with
  | .oddLength text => text = s ∧ bytes.length % 2 = 1
  | .invalidDigit text byte position =>
    text = s ∧ bytes.length % 2 = 0 ∧
      ∃ before after, bytes = before ++ byte :: after ∧ before.length = position ∧
        ¬Hex.IsDigit (Hex.charOf byte) ∧ ∀ b ∈ before, Hex.IsDigit (Hex.charOf b)
  | .wrongLength expected actual =>
    (∀ c ∈ digitsOf s, Hex.IsDigit c) ∧ (digitsOf s).length = 2 * actual ∧
      expected = n ∧ actual ≠ n

theorem unmarked_toList (s : String) : unmarked s.toList = digitsOf s := by
  unfold digitsOf
  generalize s.toList = cs
  unfold unmarked
  split
  · rename_i cs
    have hmark : ['0', 'x'] <+: '0' :: 'x' :: cs := ⟨cs, rfl⟩
    rw [if_pos hmark]
    rfl
  · rename_i hmark
    rw [if_neg ?_]
    rintro ⟨rest, rfl⟩
    exact hmark rest rfl

theorem parseBytes_of_digits (h : ∀ c ∈ digitsOf s, Hex.IsDigit c)
    (heven : (digitsOf s).length % 2 = 0) :
    ∃ out, parseBytes s = .ok out ∧ Hex.encode out = (digitsOf s).map Char.toLower := by
  have heven' : ((digitsOf s).flatMap String.utf8EncodeChar).length % 2 = 0 := by
    rwa [Hex.length_utf8_of_digits h]
  obtain ⟨out, hout, hencode⟩ :=
    Hex.decodePairs_of_digits (Hex.forall_utf8_isDigit.mpr h) heven' 0
  rw [Hex.map_charOf_utf8 h] at hencode
  refine ⟨out, ?_, hencode⟩
  rw [parseBytes, unmarked_toList, Hex.decode, if_pos heven', hout]

/-- Twice as many digits as bytes are read. -/
theorem parse_of_digits (h : ∀ c ∈ digitsOf s, Hex.IsDigit c)
    (hlength : (digitsOf s).length = 2 * n) :
    ∃ v, parse n s = .ok v ∧ v.hexChars = '0' :: 'x' :: (digitsOf s).map Char.toLower := by
  obtain ⟨out, hout, hencode⟩ := parseBytes_of_digits h (by omega)
  have hn : out.length = n := by
    have h2 : 2 * out.length = 2 * n := by
      rw [← Hex.length_encode, hencode, List.length_map, hlength]
    omega
  refine ⟨⟨out, hn⟩, ?_, by rw [hexChars, hencode]⟩
  rw [parse, hout]
  exact dif_pos hn

/-- A fault is reported. -/
theorem parse_of_faultOf {fault : ParseFault} (h : FaultOf n s fault) :
    parse n s = .error fault := by
  cases fault with
  | oddLength text =>
    obtain ⟨rfl, hodd⟩ := h
    rw [parse, parseBytes, unmarked_toList, Hex.decode, if_neg (by omega)]
    rfl
  | invalidDigit text byte position =>
    obtain ⟨rfl, heven, before, after, hbytes, rfl, hbyte, hbefore⟩ := h
    have hfirst := Hex.decodePairs_of_first hbefore hbyte (hbytes ▸ heven) 0
    rw [parse, parseBytes, unmarked_toList, Hex.decode, if_pos heven, hbytes, hfirst,
      Nat.zero_add]
    rfl
  | wrongLength expected actual =>
    obtain ⟨hdigits, hlength, rfl, hne⟩ := h
    obtain ⟨out, hout, hencode⟩ := parseBytes_of_digits hdigits (by omega)
    have hactual : out.length = actual := by
      have h2 : 2 * out.length = 2 * actual := by
        rw [← Hex.length_encode, hencode, List.length_map, hlength]
      omega
    rw [parse, hout, ← hactual]
    exact dif_neg (hactual ▸ hne)

/-- A text has the digits that are wanted, or something is wrong with it. -/
theorem digits_or_faulty (n : Nat) (s : String) :
    ((∀ c ∈ digitsOf s, Hex.IsDigit c) ∧ (digitsOf s).length = 2 * n) ∨
      ∃ fault, FaultOf n s fault := by
  rcases Nat.mod_two_eq_zero_or_one ((digitsOf s).flatMap String.utf8EncodeChar).length with
    heven | hodd
  · by_cases hdigits : ∀ c ∈ digitsOf s, Hex.IsDigit c
    · rw [Hex.length_utf8_of_digits hdigits] at heven
      by_cases hlength : (digitsOf s).length = 2 * n
      · exact .inl ⟨hdigits, hlength⟩
      · exact .inr ⟨.wrongLength n ((digitsOf s).length / 2), hdigits, by omega, rfl, by omega⟩
    · rw [← Hex.forall_utf8_isDigit] at hdigits
      obtain ⟨before, b, after, hbytes, hb, hbefore⟩ := Hex.exists_first hdigits
      exact .inr ⟨.invalidDigit s b before.length, rfl, heven, before, after, hbytes, rfl, hb,
        hbefore⟩
  · exact .inr ⟨.oddLength s, rfl, hodd⟩

/-- What is read from a text is written with the digits of the text in lower case. -/
theorem parse_eq_ok_iff {v : FixedBytes n} :
    parse n s = .ok v ↔ (∀ c ∈ digitsOf s, Hex.IsDigit c) ∧
      v.hexChars = '0' :: 'x' :: (digitsOf s).map Char.toLower := by
  constructor
  · intro hv
    rcases digits_or_faulty n s with ⟨hdigits, hlength⟩ | ⟨fault, hfault⟩
    · obtain ⟨w, hw, hchars⟩ := parse_of_digits hdigits hlength
      obtain rfl : v = w := Except.ok.inj (hv.symm.trans hw)
      exact ⟨hdigits, hchars⟩
    · cases hv.symm.trans (parse_of_faultOf hfault)
  · rintro ⟨hdigits, hchars⟩
    have hlength : (digitsOf s).length = 2 * n := by
      have hencode : Hex.encode v.bytes = (digitsOf s).map Char.toLower := by
        rw [hexChars] at hchars
        exact (List.cons.inj (List.cons.inj hchars).2).2
      rw [← List.length_map Char.toLower, ← hencode, Hex.length_encode, v.length_bytes]
    obtain ⟨w, hw, hwchars⟩ := parse_of_digits hdigits hlength
    -- no two values are written alike, since both are read back
    have hhex : v.hex = w.hex := congrArg String.ofList (hchars.trans hwchars.symm)
    have hsame : v = w := by
      have hread := parse_hex v
      rw [hhex, parse_hex] at hread
      exact (Except.ok.inj hread).symm
    rw [hsame, hw]

/-! ### The main result -/

/-- A text is read as `n` bytes if and only if there are `2 * n` digits behind its
marker, or in all if it has none; the value is the one written with these digits in
lower case, and what is written is read back.  Every other text is refused: for the
number of its bytes if it is odd, else for the first byte that is no digit, and
otherwise for the number of bytes that it stands for. -/
theorem parse_exact (n : Nat) :
    (∀ s, (∃ v, parse n s = .ok v) ↔
      (digitsOf s).length = 2 * n ∧ ∀ c ∈ digitsOf s, Hex.IsDigit c) ∧
    (∀ s v, parse n s = .ok v ↔ (∀ c ∈ digitsOf s, Hex.IsDigit c) ∧
      v.hex = "0x" ++ String.ofList ((digitsOf s).map Char.toLower)) ∧
    (∀ v : FixedBytes n, parse n v.hex = .ok v) ∧
    ∀ s fault, parse n s = .error fault ↔ FaultOf n s fault := by
  refine ⟨fun s => ⟨?_, ?_⟩, ?_, parse_hex, fun s fault => ⟨?_, parse_of_faultOf⟩⟩
  · rintro ⟨v, hv⟩
    rcases digits_or_faulty n s with ⟨hdigits, hlength⟩ | ⟨fault, hfault⟩
    · exact ⟨hlength, hdigits⟩
    · cases hv.symm.trans (parse_of_faultOf hfault)
  · rintro ⟨hlength, hdigits⟩
    obtain ⟨v, hv, -⟩ := parse_of_digits hdigits hlength
    exact ⟨v, hv⟩
  · intro s v
    have hwritten : v.hex = "0x" ++ String.ofList ((digitsOf s).map Char.toLower) ↔
        v.hexChars = '0' :: 'x' :: (digitsOf s).map Char.toLower := by
      rw [hex, ← String.toList_inj, String.toList_append, String.toList_ofList,
        String.toList_ofList, String.toList_ofList]
      rfl
    rw [hwritten, parse_eq_ok_iff]
  · intro herror
    rcases digits_or_faulty n s with ⟨hdigits, hlength⟩ | ⟨fault', hfault⟩
    · obtain ⟨v, hv, -⟩ := parse_of_digits hdigits hlength
      cases hv.symm.trans herror
    · obtain rfl : fault' = fault :=
        Except.error.inj ((parse_of_faultOf hfault).symm.trans herror)
      exact hfault

/-- A second marker counts as digits, of which the letter is none. -/
example : parse 1 "0x0xAb" = .error (.invalidDigit "0x0xAb" 0x78 1) := by decide

end FixedBytes

end ExecutionLink
