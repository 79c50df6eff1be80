/-
Every number is written in the form of a number (`Number.numeral_chars`).

For floating-point numbers this needs that the first digit of a decimal is not
zero, which is so because the grid on which the decimal was found has no point at
zero inside the interval of the number.
-/
import ExecutionLink.Json.Number
import Mathlib.Data.List.TakeWhile
import Mathlib.Tactic.SplitIfs

namespace ExecutionLink.Json

/-! ### Forms -/

/-- At least one digit, and nothing else. -/
def IsDigits (cs : List Char) : Prop :=
  cs ≠ [] ∧ ∀ c ∈ cs, c.isDigit

/-- Digits without a zero in front of others. -/
def IsWhole (cs : List Char) : Prop :=
  IsDigits cs ∧ (cs.head? = some '0' → cs = ['0'])

/-- Nothing, or digits behind a point. -/
def IsFraction (cs : List Char) : Prop :=
  cs = [] ∨ ∃ ds, cs = '.' :: ds ∧ IsDigits ds

/-- Nothing, or a signed exponent. -/
def IsExponent (cs : List Char) : Prop :=
  cs = [] ∨ ∃ sign ds, cs = 'e' :: sign :: ds ∧ (sign = '+' ∨ sign = '-') ∧ IsDigits ds

/-- The form of a number without its sign. -/
def IsMagnitude (cs : List Char) : Prop :=
  ∃ whole fraction exponent, cs = whole ++ (fraction ++ exponent) ∧
    IsWhole whole ∧ IsFraction fraction ∧ IsExponent exponent

/-- The form of a number. -/
def Numeral (cs : List Char) : Prop :=
  ∃ (minus : Bool) (magnitude : List Char),
    cs = (if minus then ['-'] else []) ++ magnitude ∧ IsMagnitude magnitude

/-- What follows does not go on like a number. -/
def EndsNumber (rest : List Char) : Prop :=
  ∀ c ∈ rest.head?, c.isDigit = false ∧ c ≠ '.' ∧ c ≠ 'e' ∧ c ≠ 'E'

theorem endsNumber_nil : EndsNumber [] := by
  rintro c ⟨⟩

theorem endsNumber_cons (c : Char) (hc : c.isDigit = false ∧ c ≠ '.' ∧ c ≠ 'e' ∧ c ≠ 'E')
    (cs : List Char) : EndsNumber (c :: cs) := by
  rintro _ ⟨⟩
  exact hc

/-! ### Reading digits -/

theorem eq_zero_of_isDigit {c : Char} (hc : c.isDigit) (hvalue : c.toNat - '0'.toNat = 0) :
    c = '0' := by
  have hle : '0'.toNat ≤ c.toNat := (Char.isDigit_iff_toNat.mp hc).1
  exact Char.toNat_inj.mp (by omega)

theorem digits_append {ds rest : List Char} (hds : ∀ c ∈ ds, c.isDigit)
    (hrest : ∀ c ∈ rest.head?, c.isDigit = false) :
    digits (ds ++ rest) = ((digits ds).1, rest) := by
  have htake : rest.takeWhile Char.isDigit = [] ∧ rest.dropWhile Char.isDigit = rest := by
    cases rest with
    | nil => exact ⟨rfl, rfl⟩
    | cons c cs =>
      have hc : c.isDigit = false := hrest c rfl
      simp [hc]
  unfold digits
  rw [List.takeWhile_append_of_pos hds, List.dropWhile_append_of_pos hds, htake.1, htake.2,
    List.append_nil, List.takeWhile_eq_self_iff.mpr hds]

theorem readWhole_append {whole rest : List Char} (hwhole : IsWhole whole)
    (hrest : ∀ c ∈ rest.head?, c.isDigit = false) :
    readWhole (whole ++ rest) = some ((digits whole).1, rest) := by
  obtain ⟨⟨hne, hdigits⟩, hzero⟩ := hwhole
  rw [readWhole, digits_append hdigits hrest]
  cases whole with
  | nil => exact absurd rfl hne
  | cons c cs =>
    obtain ⟨hc, hcs⟩ := List.forall_mem_cons.mp hdigits
    have hfirst : (digits (c :: cs)).1 = (c.toNat - '0'.toNat) :: (digits cs).1 := by
      simp [digits, hc]
    rw [hfirst]
    split
    next h => cases h
    next h =>
      -- a zero in front of other digits
      obtain ⟨hvalue, hothers⟩ := List.cons.inj (congrArg Prod.fst h)
      have hc0 : c = '0' := eq_zero_of_isDigit hc hvalue
      obtain ⟨-, rfl⟩ := List.cons.inj (hzero (congrArg some hc0))
      cases hothers
    next h => rw [h]

/-! ### Writing -/

theorem isDigits_naturalText (n : Nat) : IsDigits (Number.naturalText n) :=
  ⟨Nat.toDigits_ne_nil, fun _ hc => Nat.isDigit_of_mem_toDigits (by decide) (by decide) hc⟩

theorem head?_naturalText {n : Nat} (hn : 0 < n) :
    (Number.naturalText n).head? ≠ some '0' := by
  unfold Number.naturalText
  induction n using Nat.strongRecOn with
  | ind n ih =>
    rw [Nat.toDigits_eq_if (by decide)]
    split
    · simp only [List.head?_cons, ne_eq, Option.some.injEq, Nat.digitChar_eq_zero]
      omega
    · -- the first digit is that of a tenth of the number
      obtain ⟨c, cs, hcs⟩ := List.exists_cons_of_ne_nil (@Nat.toDigits_ne_nil (n / 10) 10)
      have := ih (n / 10) (by omega) (by omega)
      rw [hcs] at this ⊢
      exact this

theorem isWhole_naturalText (n : Nat) : IsWhole (Number.naturalText n) := by
  refine ⟨isDigits_naturalText n, fun h => ?_⟩
  obtain rfl | hn := Nat.eq_zero_or_pos n
  · rfl
  · exact absurd h (head?_naturalText hn)

theorem IsDigits.append {ds es : List Char} (hds : IsDigits ds) (hes : ∀ c ∈ es, c.isDigit) :
    IsDigits (ds ++ es) :=
  ⟨List.append_ne_nil_of_left_ne_nil hds.1 es, List.forall_mem_append.mpr ⟨hds.2, hes⟩⟩

theorem isDigit_of_mem_zeros {n : Nat} : ∀ c ∈ List.replicate n '0', c.isDigit := by
  intro c hc
  rw [List.eq_of_mem_replicate hc]
  rfl

theorem IsWhole.isMagnitude {whole : List Char} (h : IsWhole whole) : IsMagnitude whole :=
  ⟨whole, [], [], (List.append_nil whole).symm, h, .inl rfl, .inl rfl⟩

theorem IsWhole.withFraction {whole ds : List Char} (h : IsWhole whole) (hds : IsDigits ds) :
    IsMagnitude (whole ++ '.' :: ds) :=
  ⟨whole, '.' :: ds, [], by rw [List.append_nil], h, .inr ⟨ds, rfl, hds⟩, .inl rfl⟩

theorem isDigits_zero : IsDigits ['0'] :=
  ⟨List.cons_ne_nil _ _, List.forall_mem_singleton.mpr rfl⟩

/-- Only a decimal that is zero could be written with zeros in front. -/
theorem isMagnitude_decimalText {d : Decimal} (hd : 0 < d.digits) :
    IsMagnitude (Number.decimalText d) := by
  have hds := isDigits_naturalText d.digits
  have hhead := head?_naturalText hd
  unfold Number.decimalText
  generalize Number.naturalText d.digits = ds at hds hhead
  obtain ⟨c, cs, rfl⟩ := List.exists_cons_of_ne_nil hds.1
  obtain ⟨hc, hcs⟩ := List.forall_mem_cons.mp hds.2
  dsimp only
  split
  · -- one digit, the others behind a point
    refine ⟨[c], if cs.isEmpty then [] else '.' :: cs, _, List.append_assoc _ _ _,
      ⟨⟨List.cons_ne_nil _ _, List.forall_mem_singleton.mpr hc⟩, fun h => absurd h hhead⟩, ?_,
      .inr ⟨_, _, rfl, ?_, isDigits_naturalText _⟩⟩
    · cases cs with
      | nil => exact .inl rfl
      | cons c' cs' => exact .inr ⟨c' :: cs', rfl, List.cons_ne_nil _ _, hcs⟩
    · split
      · exact .inr rfl
      · exact .inl rfl
  split
  · -- nothing before the point
    have hwhole : IsWhole ['0'] := ⟨isDigits_zero, fun _ => rfl⟩
    refine hwhole.withFraction ⟨?_, ?_⟩
    · exact List.append_ne_nil_of_right_ne_nil _ hds.1
    · exact List.forall_mem_append.mpr ⟨isDigit_of_mem_zeros, hds.2⟩
  split
  · -- nothing behind the point
    refine IsWhole.withFraction ⟨hds.append isDigit_of_mem_zeros, fun h => ?_⟩ isDigits_zero
    exact absurd h hhead
  next hshort =>
    refine IsWhole.withFraction ⟨⟨?_, ?_⟩, ?_⟩ ⟨?_, ?_⟩
    · exact List.cons_ne_nil c _
    · exact fun x hx => hds.2 x (List.mem_of_mem_take hx)
    · exact fun h => absurd h hhead
    · exact fun h => hshort (List.drop_eq_nil_iff.mp h)
    · exact fun x hx => hds.2 x (List.mem_of_mem_drop hx)

theorem pos_of_nearer {inside : Nat → Bool} (hzero : inside 0 = false) {k down up found : Nat}
    (h : (if inside k && inside (k + 1) then
        some (if down < up then k else if up < down then k + 1 else k + k % 2)
      else if inside k then some k else if inside (k + 1) then some (k + 1) else none) =
        some found) : 0 < found := by
  have hpos (hk : inside k) : 0 < k := by
    refine Nat.pos_of_ne_zero fun h => ?_
    rw [h, hzero] at hk
    cases hk
  split_ifs at h with hboth hdown hup hleft hright
  · cases h
    exact hpos (Bool.and_eq_true_iff.mp hboth).1
  · cases h
    exact Nat.succ_pos k
  · cases h
    exact Nat.add_pos_left (hpos (Bool.and_eq_true_iff.mp hboth).1) _
  · cases h
    exact hpos hleft
  · cases h
    exact Nat.succ_pos k

/-- The grid on which a decimal is found has no point at zero inside the interval
of a number that is not zero. -/
theorem pos_of_onGrid? {x : Binary64} (hx : x.mantissa ≠ 0) {p : Int} {k : Nat}
    (h : x.onGrid? p = some k) : 0 < k := by
  have hlow : 0 < x.interval.1 := by
    unfold Binary64.interval
    dsimp only
    split <;> omega
  unfold Binary64.onGrid? at h
  extract_lets e unit step value k down up at h
  split at h
  next low high closed hinterval =>
    rw [hinterval] at hlow
    extract_lets inside at h
    have hunit : 0 < unit := Nat.mul_pos (Nat.pow_pos (by decide)) (Nat.pow_pos (by decide))
    -- scaled to the grid the lower end stays above zero
    have hend : 0 < low * unit := Nat.mul_pos hlow hunit
    have hzero : inside 0 = false := by
      cases closed with
      | true => simp [inside, Nat.not_le.mpr hend]
      | false => simp [inside]
    exact pos_of_nearer hzero h

theorem shortest_pos {x : Binary64} (hx : x.mantissa ≠ 0) :
    0 < x.shortest.digits ∨ x.shortest = ⟨0, 0⟩ := by
  cases h : (List.range 640).findSome? fun (i : Nat) =>
    (x.onGrid? (308 - i)).map fun k => Decimal.mk k (308 - i) with
  | none => exact .inr (congrArg (·.getD ⟨0, 0⟩) h)
  | some d =>
    obtain ⟨i, -, hi⟩ := List.exists_of_findSome?_eq_some h
    obtain ⟨k, hk, rfl⟩ := Option.map_eq_some_iff.mp hi
    have : x.shortest = ⟨k, 308 - i⟩ := congrArg (·.getD ⟨0, 0⟩) h
    rw [this]
    exact .inl (pos_of_onGrid? hx hk)

theorem isMagnitude_realText (x : Binary64) : IsMagnitude (Number.realText x) := by
  have hzero : IsMagnitude ['0', '.', '0'] :=
    IsWhole.withFraction ⟨isDigits_zero, fun _ => rfl⟩ isDigits_zero
  unfold Number.realText
  split
  · exact hzero
  next hx =>
    obtain hd | hd := shortest_pos hx
    · exact isMagnitude_decimalText hd
    · rw [hd]
      exact hzero

/-- Every number is written in the form of a number. -/
theorem Number.numeral_chars (n : Number) : Numeral n.chars := by
  cases n with
  | natural n => exact ⟨false, _, rfl, (isWhole_naturalText n.toNat).isMagnitude⟩
  | negative m => exact ⟨true, _, rfl, (isWhole_naturalText m).isMagnitude⟩
  | real minus x => exact ⟨minus, _, rfl, isMagnitude_realText x⟩

end ExecutionLink.Json
