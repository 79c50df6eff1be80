/-
Numbers are read back from their decimal digits.

* `SpellsNatural` — what a number may be written as: digits, behind a plus sign or
  without one.
* `read_eq_ok` — a text is read as a number exactly if it is written as the number.
* `read_render` — so the written form of a number is read as the number.

Reading stops as soon as a number outgrows 64 bits.  Since numbers only grow
while their digits are read, it is enough that the last one fits
(`readFrom_eq_ok`).
-/
import ExecutionLink.Text.Natural

namespace ExecutionLink.Text.Natural

theorem toDigits_injective {a b : Nat} (h : Nat.toDigits 10 a = Nat.toDigits 10 b) : a = b := by
  rw [← Nat.ofDigitChars_ten_toDigits (n := a), h, Nat.ofDigitChars_ten_toDigits]

theorem notMem_toDigits {c : Char} (hc : c.isDigit = false) (n : Nat) :
    c ∉ Nat.toDigits 10 n := by
  intro hmem
  have hdigit := Nat.isDigit_of_mem_toDigits (by decide) (by decide) hmem
  rw [hc] at hdigit
  cases hdigit

theorem isDigit_of_mem_render {n : UInt64} {c : Char} (hc : c ∈ (render n).toList) :
    c.isDigit := by
  rw [render, Nat.toString_eq_ofList_toDigits, String.toList_ofList] at hc
  exact Nat.isDigit_of_mem_toDigits (by decide) (by decide) hc

theorem notMem_render {c : Char} (hc : c.isDigit = false) (n : UInt64) :
    c ∉ (render n).toList := fun hmem =>
  Bool.false_ne_true (hc.symm.trans (isDigit_of_mem_render hmem))

theorem le_ofDigitChars (cs : List Char) (value : Nat) :
    value ≤ Nat.ofDigitChars 10 cs value := by
  induction cs generalizing value with
  | nil => exact Nat.le_refl value
  | cons c cs ih =>
    rw [Nat.ofDigitChars_cons]
    have := ih (10 * value + (c.toNat - '0'.toNat))
    omega

/-- What a number may be written as: one digit or more, which may stand behind a plus
sign. -/
def SpellsNatural (cs : List Char) (n : Nat) : Prop :=
  ∃ sign ds, cs = sign ++ ds ∧ (sign = [] ∨ sign = ['+']) ∧ ds ≠ [] ∧ (∀ c ∈ ds, c.isDigit) ∧
    Nat.ofDigitChars 10 ds 0 = n

theorem SpellsNatural.ne_nil {cs : List Char} {n : Nat} (h : SpellsNatural cs n) : cs ≠ [] := by
  obtain ⟨sign, ds, rfl, -, hne, -⟩ := h
  exact fun hnil => hne (List.append_eq_nil_iff.mp hnil).2

theorem SpellsNatural.plus_or_isDigit {cs : List Char} {n : Nat} (h : SpellsNatural cs n)
    {c : Char} (hc : c ∈ cs) : c = '+' ∨ c.isDigit := by
  obtain ⟨sign, ds, rfl, hsign, -, hdigits, -⟩ := h
  obtain hc | hc := List.mem_append.mp hc
  · obtain rfl | rfl := hsign
    · cases hc
    · exact .inl (List.mem_singleton.mp hc)
  · exact .inr (hdigits c hc)

/-- A text is written as one number at most: the plus sign is no digit. -/
theorem SpellsNatural.unique {cs : List Char} {m n : Nat} (hm : SpellsNatural cs m)
    (hn : SpellsNatural cs n) : m = n := by
  obtain ⟨sign, ds, rfl, hsign, -, hdigits, rfl⟩ := hm
  obtain ⟨sign', ds', heq, hsign', -, hdigits', rfl⟩ := hn
  have hplus {ds : List Char} (h : ∀ c ∈ ds, c.isDigit) (rest : List Char) : ds ≠ '+' :: rest := by
    rintro rfl
    exact absurd (h '+' List.mem_cons_self) (by decide)
  obtain rfl | rfl := hsign <;> obtain rfl | rfl := hsign'
  · rw [show ds = ds' from heq]
  · exact absurd heq (hplus hdigits ds')
  · exact absurd heq.symm (hplus hdigits' ds)
  · rw [List.append_cancel_left heq]

/-- Characters are read to their end exactly if they are digits and the number that they
stand for fits. -/
theorem readFrom_eq_ok {cs : List Char} {value n : Nat} (hvalue : value < UInt64.size) :
    readFrom value cs = .ok n ↔
      (∀ c ∈ cs, c.isDigit) ∧ Nat.ofDigitChars 10 cs value = n ∧ n < UInt64.size := by
  induction cs generalizing value with
  | nil =>
    rw [readFrom, Nat.ofDigitChars_nil, Except.ok.injEq]
    constructor
    · rintro rfl
      exact ⟨List.forall_mem_nil _, rfl, hvalue⟩
    · rintro ⟨-, h, -⟩
      exact h
  | cons c cs ih =>
    rw [readFrom, digit?, Nat.ofDigitChars_cons, List.forall_mem_cons]
    by_cases hc : c.isDigit
    · rw [if_pos hc]
      show (if _ then _ else _) = _ ↔ _
      split
      next hnext => rw [ih hnext, and_iff_right hc]
      next hlarge =>
        -- the number read so far is too large, and the whole is no smaller
        refine iff_of_false nofun ?_
        rintro ⟨-, rfl, hfits⟩
        exact hlarge (Nat.lt_of_le_of_lt (le_ofDigitChars cs _) hfits)
    · rw [if_neg hc]
      exact iff_of_false nofun fun h => hc h.1.1

theorem readFrom_zero_eq_ok {ds : List Char} {n : Nat} :
    readFrom 0 ds = .ok n ↔
      ((∀ c ∈ ds, c.isDigit) ∧ Nat.ofDigitChars 10 ds 0 = n) ∧ n < UInt64.size := by
  rw [readFrom_eq_ok (by decide), and_assoc]

theorem readChars_eq_ok {cs : List Char} {n : Nat} :
    readChars cs = .ok n ↔ SpellsNatural cs n ∧ n < UInt64.size := by
  unfold readChars SpellsNatural
  split
  next =>
    refine iff_of_false nofun ?_
    rintro ⟨⟨sign, ds, h, -, hne, -⟩, -⟩
    exact hne (List.append_eq_nil_iff.mp h.symm).2
  next =>
    refine iff_of_false nofun ?_
    rintro ⟨⟨sign, ds, h, rfl | rfl, hne, hdigits, -⟩, -⟩
    · rw [List.nil_append] at h
      exact absurd (hdigits '+' (h ▸ List.mem_cons_self)) (by decide)
    · exact hne (List.cons.inj h).2.symm
  next cs hne =>
    rw [readFrom_zero_eq_ok]
    refine and_congr_left fun _ => ⟨?_, ?_⟩
    · rintro ⟨hdigits, hvalue⟩
      exact ⟨['+'], cs, rfl, .inr rfl, fun h => hne (h ▸ rfl), hdigits, hvalue⟩
    · rintro ⟨sign, ds, h, rfl | rfl, -, hdigits, hvalue⟩
      · rw [List.nil_append] at h
        exact absurd (hdigits '+' (h ▸ List.mem_cons_self)) (by decide)
      · rw [(List.cons.inj h).2]
        exact ⟨hdigits, hvalue⟩
  next hnil _ hplus =>
    rw [readFrom_zero_eq_ok]
    refine and_congr_left fun _ => ⟨?_, ?_⟩
    · rintro ⟨hdigits, hvalue⟩
      exact ⟨[], cs, rfl, .inl rfl, hnil, hdigits, hvalue⟩
    · rintro ⟨sign, ds, h, rfl | rfl, -, hdigits, hvalue⟩
      · rw [h]
        exact ⟨hdigits, hvalue⟩
      · exact (hplus ds h).elim

/-- A text is read as a number exactly if it is written as the number. -/
theorem read_eq_ok {s : String} {n : UInt64} :
    read s = .ok n ↔ SpellsNatural s.toList n.toNat := by
  rw [← and_iff_left (a := SpellsNatural s.toList n.toNat) n.toNat_lt_size, ← readChars_eq_ok,
    read]
  cases hread : readChars s.toList with
  | error fault => exact iff_of_false nofun nofun
  | ok m =>
    obtain ⟨-, hfits⟩ := readChars_eq_ok.mp hread
    show Except.ok (UInt64.ofNat m) = .ok n ↔ _
    rw [Except.ok.injEq, Except.ok.injEq]
    constructor
    · rintro rfl
      exact (UInt64.toNat_ofNat_of_lt' hfits).symm
    · rintro rfl
      exact UInt64.ofNat_toNat

example : read "+007" = .ok 7 ∧ read "18446744073709551616" = .error .tooLarge :=
  ⟨rfl, rfl⟩

/-- The written form of a number is read as the number. -/
theorem read_render (n : UInt64) : read (render n) = .ok n := by
  rw [read_eq_ok, render, Nat.toString_eq_ofList_toDigits, String.toList_ofList]
  exact ⟨[], Nat.toDigits 10 n.toNat, rfl, .inl rfl, Nat.toDigits_ne_nil,
    fun c hc => Nat.isDigit_of_mem_toDigits (by decide) (by decide) hc,
    Nat.ofDigitChars_ten_toDigits⟩

end ExecutionLink.Text.Natural
