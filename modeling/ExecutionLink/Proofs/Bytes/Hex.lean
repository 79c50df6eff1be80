/-
Bytes are read back from their hexadecimal digits.

* `Hex.decode_encode` — the digits of a list of bytes stand for these bytes.
* `FixedBytes.parse_hex` — the written form of a value is read as the value.
-/
import ExecutionLink.Bytes.Fixed

namespace ExecutionLink

namespace Hex

/-! ### Single digits -/

theorem value?_digit : ∀ n < 16, value? (UInt8.ofNat (digit n).toNat) = some n := by
  decide

theorem digit_toNat_lt : ∀ n < 16, (digit n).toNat < 128 := by
  decide

/-- Digits are their own UTF-8 form. -/
theorem utf8_digit : ∀ n < 16,
    String.utf8EncodeChar (digit n) = [UInt8.ofNat (digit n).toNat] := by
  decide

theorem utf8_digits (b : UInt8) :
    (digits b).flatMap String.utf8EncodeChar =
      [UInt8.ofNat (digit (b.toNat / 16)).toNat, UInt8.ofNat (digit (b.toNat % 16)).toNat] := by
  have hb : b.toNat < 256 := b.toNat_lt
  have hhigh : b.toNat / 16 < 16 := by omega
  have hlow : b.toNat % 16 < 16 := by omega
  simp only [digits, List.flatMap_cons, List.flatMap_nil, List.append_nil, utf8_digit _ hhigh,
    utf8_digit _ hlow, List.cons_append, List.nil_append]

/-! ### Lists of bytes -/

theorem decodePairs_digits (position : Nat) (b : UInt8) (rest : List UInt8) :
    decodePairs position ((digits b).flatMap String.utf8EncodeChar ++ rest) =
      (decodePairs (position + 2) rest).map (b :: ·) := by
  have hb : b.toNat < 256 := b.toNat_lt
  have hhigh : b.toNat / 16 < 16 := by omega
  have hlow : b.toNat % 16 < 16 := by omega
  have hvalue : UInt8.ofNat (16 * (b.toNat / 16) + b.toNat % 16) = b := by
    rw [Nat.div_add_mod, UInt8.ofNat_toNat]
  rw [utf8_digits, List.cons_append, List.cons_append, List.nil_append, decodePairs, valueAt,
    value?_digit _ hhigh, valueAt, value?_digit _ hlow]
  cases decodePairs (position + 2) rest with
  | error e => rfl
  | ok bytes => exact congrArg (fun b => Except.ok (b :: bytes)) hvalue

theorem decodePairs_encode (position : Nat) (bs : List UInt8) :
    decodePairs position ((encode bs).flatMap String.utf8EncodeChar) = .ok bs := by
  induction bs generalizing position with
  | nil => rfl
  | cons b bs ih =>
    have hsplit : (encode (b :: bs)).flatMap String.utf8EncodeChar =
        (digits b).flatMap String.utf8EncodeChar ++
          (encode bs).flatMap String.utf8EncodeChar := by
      rw [encode, List.flatMap_cons, List.flatMap_append, encode]
    rw [hsplit, decodePairs_digits, ih]
    rfl

theorem length_utf8_encode (bs : List UInt8) :
    ((encode bs).flatMap String.utf8EncodeChar).length = 2 * bs.length := by
  induction bs with
  | nil => rfl
  | cons b bs ih =>
    rw [encode, List.flatMap_cons, List.flatMap_append, List.length_append, utf8_digits]
    rw [encode] at ih
    simp only [List.length_cons, List.length_nil, ih]
    omega

/-- The digits of a list of bytes stand for these bytes. -/
theorem decode_encode (bs : List UInt8) :
    decode ((encode bs).flatMap String.utf8EncodeChar) = .ok bs := by
  have heven : ((encode bs).flatMap String.utf8EncodeChar).length % 2 = 0 := by
    rw [length_utf8_encode]
    omega
  rw [decode, if_pos heven, decodePairs_encode]

end Hex

namespace FixedBytes

variable {n : Nat}

theorem parseBytes_hex (b : FixedBytes n) : parseBytes b.hex = .ok b.bytes := by
  -- the mark in front is dropped before the digits are read
  have hunmarked : unmarked b.hex.toList = Hex.encode b.bytes := by
    rw [hex, String.toList_ofList]
    rfl
  rw [parseBytes, hunmarked, Hex.decode_encode]

/-- The written form of a value is read as the value. -/
theorem parse_hex (b : FixedBytes n) : parse n b.hex = .ok b := by
  rw [parse, parseBytes_hex]
  exact dif_pos b.length_bytes

/-- What is true of the mark and of all digits is true of a written form. -/
theorem forall_mem_hex {p : Char → Prop} (hmark : p 'x') (hdigit : ∀ d < 16, p (Hex.digit d))
    (b : FixedBytes n) : ∀ c ∈ b.hex.toList, p c := by
  rw [hex, String.toList_ofList, hexChars]
  refine List.forall_mem_cons.mpr ⟨hdigit 0 (by decide), List.forall_mem_cons.mpr ⟨hmark, ?_⟩⟩
  intro c hc
  obtain ⟨byte, -, hbyte⟩ := List.mem_flatMap.mp hc
  have hlt : byte.toNat < 256 := byte.toNat_lt
  rcases List.mem_cons.mp hbyte with rfl | hlow
  · exact hdigit _ (by omega)
  · rw [List.mem_singleton.mp hlow]
    exact hdigit _ (by omega)

end FixedBytes

end ExecutionLink
