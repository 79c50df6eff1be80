/-
The bytes of a word, the highest first.
-/

namespace ExecutionLink

/-- The four bytes of a word, the highest first. -/
def bigEndian32 (w : UInt32) : List UInt8 :=
  [(w >>> 24).toUInt8, (w >>> 16).toUInt8, (w >>> 8).toUInt8, w.toUInt8]

/-- The eight bytes of a word, the highest first. -/
def bigEndian64 (w : UInt64) : List UInt8 :=
  [(w >>> 56).toUInt8, (w >>> 48).toUInt8, (w >>> 40).toUInt8, (w >>> 32).toUInt8,
    (w >>> 24).toUInt8, (w >>> 16).toUInt8, (w >>> 8).toUInt8, w.toUInt8]

@[simp] theorem length_bigEndian64 (w : UInt64) : (bigEndian64 w).length = 8 := rfl

/-- A word can be put together again from its bytes. -/
theorem bigEndian64_injective {v w : UInt64} (h : bigEndian64 v = bigEndian64 w) : v = w := by
  have hv : v.toNat < 2 ^ 64 := v.toNat_lt
  have hw : w.toNat < 2 ^ 64 := w.toNat_lt
  -- the bytes are the digits of the number in base 256
  simp only [bigEndian64, List.cons.injEq, and_true, ← UInt8.toNat_inj, UInt64.toNat_toUInt8,
    UInt64.toNat_shiftRight, Nat.shiftRight_eq_div_pow, UInt64.reduceToNat, Nat.reduceMod,
    Nat.reducePow] at h
  rw [← UInt64.toNat_inj]
  omega

end ExecutionLink
