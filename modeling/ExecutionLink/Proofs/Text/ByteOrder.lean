/-
Texts are in the order of their bytes.

The UTF-8 forms of two characters differ in some byte before either of them ends, and
the character with the greater number has the greater byte there.  So comparing texts
character by character is comparing their bytes.

* `utf8_lt_utf8` — a text that comes before another one does so as bytes as well.
-/
import ExecutionLink.Text.Encoding
import Mathlib.Data.String.Basic

namespace ExecutionLink.Text

theorem toNat_lt (c : Char) : c.val.toNat < 0x110000 := by
  have h : c.val.toNat < 0xd800 ∨ 0xdfff < c.val.toNat ∧ c.val.toNat < 0x110000 := c.valid
  omega

/-- What follows is of no matter, since the difference comes before. -/
theorem utf8EncodeChar_lt {c d : Char} (h : c < d) (as bs : List UInt8) :
    String.utf8EncodeChar c ++ as < String.utf8EncodeChar d ++ bs := by
  have hlt : c.val.toNat < d.val.toNat := h
  have hd : d.val.toNat < 0x110000 := toNat_lt d
  unfold String.utf8EncodeChar
  generalize c.val.toNat = v at hlt
  generalize d.val.toNat = w at hlt hd
  -- the bytes are the digits of the number in base 64, behind marks
  have hmiddle (n : Nat) : n / 64 / 64 = n / 4096 := Nat.div_div_eq_div_mul n 64 64
  have hhigh (n : Nat) : n / 4096 / 64 = n / 262144 := Nat.div_div_eq_div_mul n 4096 64
  have hnext (n : Nat) : (n % 64 + 128) % 256 = n % 64 + 128 := by omega
  have hlead (n : Nat) (hn : n < 0x110000) : (n / 262144 % 8 + 240) % 256 = n / 262144 + 240 := by
    omega
  have hv := And.intro (hmiddle v) (hhigh v)
  have hw := And.intro (hmiddle w) (hhigh w)
  simp only
  split_ifs <;>
    simp only [List.cons_append, List.nil_append, List.cons_lt_cons_iff, UInt8.lt_iff_toNat_lt,
      ← UInt8.toNat_inj, UInt8.toNat_ofNat', Nat.reducePow, hnext, hlead v (by omega),
      hlead w hd] <;>
    omega

theorem utf8_lt_utf8 {s t : String} (h : s < t) : utf8 s < utf8 t := by
  have hchars : s.toList < t.toList := String.lt_iff_toList_lt.mp h
  unfold utf8
  generalize s.toList = cs at hchars
  generalize t.toList = ds at hchars
  induction hchars with
  | @nil d ds =>
    rw [List.flatMap_nil, List.flatMap_cons]
    cases hc : String.utf8EncodeChar d with
    | nil =>
      have hlength := String.length_utf8EncodeChar d
      rw [hc] at hlength
      exact absurd hlength.symm d.utf8Size_pos.ne'
    | cons b bs => exact .nil
  | rel hlt =>
    rw [List.flatMap_cons, List.flatMap_cons]
    exact utf8EncodeChar_lt hlt _ _
  | cons _ ih =>
    rw [List.flatMap_cons, List.flatMap_cons]
    exact List.append_left_lt ih

end ExecutionLink.Text
