/-
How the literals of a text are spelled.

* `SpellsString`, `SpellsNumber` — the forms of a literal: what stands between the
  quotes of a string, piece by piece, and the parts of a number.
* `readString_eq_some`, `readNumber_eq_some` — a reader takes such a form off the
  front of a text and nothing else.
* `readString_of_spells`, `readNumber_of_spells` — and it takes all of it; a number
  must end where it does not go on like one.
-/
import ExecutionLink.Proofs.Json.Numerals
import ExecutionLink.Proofs.Json.Strings

namespace ExecutionLink.Json

/-! ### Strings -/

/-- The letters that stand for a character behind a backslash. -/
def shortEscapes : List (Char × Char) :=
  [('"', '"'), ('\\', '\\'), ('/', '/'), ('b', '\x08'), ('f', '\x0c'), ('n', '\n'), ('r', '\r'),
    ('t', '\t')]

/-- The digit of a number below sixteen, in lower or upper case. -/
def IsHexDigit (c : Char) (v : Nat) : Prop :=
  v < 16 ∧ (c = Hex.digit v ∨ c = (Hex.digit v).toUpper)

/-- What stands between the quotes of a string. -/
inductive SpellsString : List Char → StringLiteral → Prop
  | nil : SpellsString [] []
  | plain {c : Char} {cs : List Char} {ps : StringLiteral} (quote : c ≠ '"') (slash : c ≠ '\\')
      (control : 0x20 ≤ c.toNat) (rest : SpellsString cs ps) :
      SpellsString (c :: cs) (.char c :: ps)
  | short {c e : Char} {cs : List Char} {ps : StringLiteral} (escape : (c, e) ∈ shortEscapes)
      (rest : SpellsString cs ps) : SpellsString ('\\' :: c :: cs) (.char e :: ps)
  | unit {a b c d : Char} {x y z w : Nat} {cs : List Char} {ps : StringLiteral}
      (ha : IsHexDigit a x) (hb : IsHexDigit b y) (hc : IsHexDigit c z) (hd : IsHexDigit d w)
      (rest : SpellsString cs ps) :
      SpellsString ('\\' :: 'u' :: a :: b :: c :: d :: cs)
        (.unit (4096 * x + 256 * y + 16 * z + w) :: ps)

theorem shortEscape?_eq_some {c e : Char} : shortEscape? c = some e ↔ (c, e) ∈ shortEscapes := by
  unfold shortEscape? shortEscapes
  constructor
  · intro h
    split_ifs at h with h₁ h₂ h₃ h₄ h₅ h₆ h₇ h₈
    all_goals
      subst c
      cases h
      decide
  · intro h
    simp only [List.mem_cons, List.not_mem_nil, or_false, Prod.mk.injEq] at h
    rcases h with ⟨rfl, rfl⟩ | ⟨rfl, rfl⟩ | ⟨rfl, rfl⟩ | ⟨rfl, rfl⟩ | ⟨rfl, rfl⟩ | ⟨rfl, rfl⟩ |
      ⟨rfl, rfl⟩ | ⟨rfl, rfl⟩
    all_goals rfl

theorem hexDigit?_eq_some {c : Char} {v : Nat} : hexDigit? c = some v ↔ IsHexDigit c v := by
  have hread : ∀ n < 128, ∀ v ∈ Hex.value? (UInt8.ofNat n),
      v < 16 ∧ (Char.ofNat n = Hex.digit v ∨ Char.ofNat n = (Hex.digit v).toUpper) := by
    decide
  have hupper : ∀ v < 16, hexDigit? (Hex.digit v).toUpper = some v := by decide
  constructor
  · intro h
    unfold hexDigit? at h
    split at h
    next hlt =>
      have := hread c.toNat hlt v h
      rwa [Char.ofNat_toNat] at this
    next => cases h
  · rintro ⟨hv, rfl | rfl⟩
    · exact hexDigit?_digit hv
    · exact hupper v hv

theorem unit?_eq_some {a b c d : Char} {u : Nat} :
    unit? a b c d = some u ↔ ∃ x y z w, IsHexDigit a x ∧ IsHexDigit b y ∧ IsHexDigit c z ∧
      IsHexDigit d w ∧ u = 4096 * x + 256 * y + 16 * z + w := by
  unfold unit?
  simp only [Option.bind_eq_bind, Option.bind_eq_some_iff, hexDigit?_eq_some, Option.pure_def,
    Option.some.injEq]
  constructor
  · rintro ⟨x, hx, y, hy, z, hz, w, hw, rfl⟩
    exact ⟨x, y, z, w, hx, hy, hz, hw, rfl⟩
  · rintro ⟨x, y, z, w, hx, hy, hz, hw, rfl⟩
    exact ⟨x, hx, y, hy, z, hz, w, hw, rfl⟩

/-- A string is read off the front of a text up to its closing quote. -/
theorem readString_eq_some {cs rest : List Char} {l : StringLiteral}
    (h : readString cs = some (l, rest)) :
    ∃ body, cs = body ++ '"' :: rest ∧ SpellsString body l := by
  fun_induction readString cs generalizing l with
  | case1 => cases h
  | case2 =>
    cases h
    exact ⟨[], rfl, .nil⟩
  | case3 a b c d cs u hu ih =>
    obtain ⟨⟨ps, r⟩, hr, he⟩ := Option.map_eq_some_iff.mp h
    cases he
    obtain ⟨body, rfl, hbody⟩ := ih hr
    obtain ⟨x, y, z, w, hx, hy, hz, hw, rfl⟩ := unit?_eq_some.mp hu
    exact ⟨_, rfl, .unit hx hy hz hw hbody⟩
  | case4 => cases h
  | case5 c cs _ e he ih =>
    obtain ⟨⟨ps, r⟩, hr, heq⟩ := Option.map_eq_some_iff.mp h
    cases heq
    obtain ⟨body, rfl, hbody⟩ := ih hr
    exact ⟨_, rfl, .short (shortEscape?_eq_some.mp he) hbody⟩
  | case6 => cases h
  | case7 => cases h
  | case8 c cs hquote _ _ hplain ih =>
    obtain ⟨⟨ps, r⟩, hr, he⟩ := Option.map_eq_some_iff.mp h
    cases he
    obtain ⟨body, rfl, hbody⟩ := ih hr
    obtain ⟨hslash, hcontrol⟩ := not_or.mp hplain
    exact ⟨_, rfl, .plain hquote hslash (Nat.not_lt.mp hcontrol) hbody⟩

theorem readString_of_spells {body : List Char} {l : StringLiteral} (h : SpellsString body l)
    (rest : List Char) : readString (body ++ '"' :: rest) = some (l, rest) := by
  induction h with
  | nil => rfl
  | plain hquote hslash hcontrol _ ih =>
    rw [List.cons_append, readString_plain hquote hslash (Nat.not_lt.mpr hcontrol), ih]
    rfl
  | short hescape _ ih =>
    rw [List.cons_append, List.cons_append, readString_short (shortEscape?_eq_some.mpr hescape),
      ih]
    rfl
  | unit ha hb hc hd _ ih =>
    have hunit := unit?_eq_some.mpr ⟨_, _, _, _, ha, hb, hc, hd, rfl⟩
    show readString ('\\' :: 'u' :: _ :: _ :: _ :: _ :: _) = _
    rw [readString.eq_3, hunit]
    show (readString (_ ++ '"' :: rest)).map _ = _
    rw [ih]
    rfl

/-! ### Numbers -/

/-- At least one digit, and what each of them counts. -/
def SpellsDigits (cs : List Char) (ds : List Nat) : Prop :=
  IsDigits cs ∧ ds = cs.map fun c => c.toNat - '0'.toNat

/-- The digits behind a point, if there is a point. -/
inductive SpellsFraction : List Char → Option (List Nat) → Prop
  | none : SpellsFraction [] none
  | some {cs : List Char} {ds : List Nat} (digits : SpellsDigits cs ds) :
      SpellsFraction ('.' :: cs) (some ds)

/-- A sign, true for minus; none is the same as plus. -/
inductive SpellsSign : List Char → Bool → Prop
  | none : SpellsSign [] false
  | plus : SpellsSign ['+'] false
  | minus : SpellsSign ['-'] true

/-- The exponent, if there is one. -/
inductive SpellsExponent : List Char → Option (Bool × List Nat) → Prop
  | none : SpellsExponent [] none
  | some {e : Char} {sign cs : List Char} {minus : Bool} {ds : List Nat} (he : e = 'e' ∨ e = 'E')
      (hsign : SpellsSign sign minus) (digits : SpellsDigits cs ds) :
      SpellsExponent (e :: (sign ++ cs)) (some (minus, ds))

/-- The form of a number: a minus, digits without a zero in front of others, a
fraction and an exponent. -/
def SpellsNumber (cs : List Char) (n : NumberLiteral) : Prop :=
  ∃ whole fraction exponent,
    cs = (if n.negative then ['-'] else []) ++ (whole ++ (fraction ++ exponent)) ∧
      IsWhole whole ∧ SpellsDigits whole n.whole ∧ SpellsFraction fraction n.fraction ∧
      SpellsExponent exponent n.exponent

theorem digits_eq {cs rest : List Char} {ds : List Nat} (h : digits cs = (ds, rest))
    (hne : ds ≠ []) : ∃ w, cs = w ++ rest ∧ SpellsDigits w ds := by
  obtain ⟨hds, hrest⟩ := Prod.mk.inj h
  refine ⟨cs.takeWhile Char.isDigit, ?_, ⟨?_, ?_⟩, hds.symm⟩
  · rw [← hrest, List.takeWhile_append_dropWhile]
  · intro hnil
    rw [hnil] at hds
    exact hne hds.symm
  · intro c hc
    exact List.mem_takeWhile_imp hc

theorem digits_of_spells {cs : List Char} {ds : List Nat} (h : SpellsDigits cs ds)
    {rest : List Char} (hrest : ∀ c ∈ rest.head?, c.isDigit = false) :
    digits (cs ++ rest) = (ds, rest) := by
  obtain ⟨⟨-, hdigits⟩, rfl⟩ := h
  rw [digits_append hdigits hrest, digits, List.takeWhile_eq_self_iff.mpr hdigits]

theorem SpellsDigits.ne_nil {cs : List Char} {ds : List Nat} (h : SpellsDigits cs ds) : ds ≠ [] := by
  obtain ⟨⟨hne, -⟩, rfl⟩ := h
  intro hnil
  exact hne (List.map_eq_nil_iff.mp hnil)

theorem readWhole_eq_some {cs rest : List Char} {ds : List Nat}
    (h : readWhole cs = some (ds, rest)) :
    ∃ w, cs = w ++ rest ∧ IsWhole w ∧ SpellsDigits w ds := by
  unfold readWhole at h
  split at h
  next => cases h
  next => cases h
  next ds' rest' hnil hzero hd =>
    cases h
    obtain ⟨w, hcs, hw⟩ := digits_eq hd hnil
    refine ⟨w, hcs, ⟨hw.1, ?_⟩, hw⟩
    -- a zero in front is the only digit
    intro hhead
    obtain ⟨cs', rfl⟩ := List.head?_eq_some_iff.mp hhead
    obtain ⟨-, rfl⟩ := hw
    cases cs' with
    | nil => rfl
    | cons c cs'' => exact (hzero _ _ rfl).elim

theorem readFraction_eq_some {cs rest : List Char} {f : Option (List Nat)}
    (h : readFraction cs = some (f, rest)) : ∃ w, cs = w ++ rest ∧ SpellsFraction w f := by
  unfold readFraction at h
  split at h
  next cs' =>
    split at h
    next => cases h
    next ds rest' hnil hd =>
      cases h
      obtain ⟨w, rfl, hw⟩ := digits_eq hd hnil
      exact ⟨'.' :: w, rfl, .some hw⟩
  next =>
    cases h
    exact ⟨[], rfl, .none⟩

theorem exists_exponentSign (cs : List Char) :
    ∃ sign, cs = sign ++ (exponentSign cs).2 ∧ SpellsSign sign (exponentSign cs).1 := by
  unfold exponentSign
  split
  · exact ⟨['+'], rfl, .plus⟩
  · exact ⟨['-'], rfl, .minus⟩
  · exact ⟨[], rfl, .none⟩

theorem readExponent_eq_some {cs rest : List Char} {e : Option (Bool × List Nat)}
    (h : readExponent cs = some (e, rest)) : ∃ w, cs = w ++ rest ∧ SpellsExponent w e := by
  unfold readExponent at h
  split at h
  next =>
    cases h
    exact ⟨[], rfl, .none⟩
  next c tail =>
    split at h
    next he =>
      obtain ⟨sign, htail, hsign⟩ := exists_exponentSign tail
      split at h
      next => cases h
      next ds rest' hnil hd =>
        cases h
        obtain ⟨w, hw, hds⟩ := digits_eq hd hnil
        refine ⟨c :: (sign ++ w), ?_, .some he hsign hds⟩
        rw [htail, hw, List.cons_append, List.append_assoc]
    next =>
      cases h
      exact ⟨[], rfl, .none⟩

theorem readUnsigned_eq_some {minus : Bool} {cs rest : List Char} {n : NumberLiteral}
    (h : readUnsigned minus cs = some (n, rest)) :
    n.negative = minus ∧ ∃ whole fraction exponent,
      cs = whole ++ (fraction ++ exponent) ++ rest ∧ IsWhole whole ∧ SpellsDigits whole n.whole ∧
      SpellsFraction fraction n.fraction ∧ SpellsExponent exponent n.exponent := by
  unfold readUnsigned at h
  split at h
  next => cases h
  next hwhole =>
    split at h
    next => cases h
    next hfraction =>
      split at h
      next => cases h
      next hexponent =>
        cases h
        obtain ⟨whole, rfl, hw, hws⟩ := readWhole_eq_some hwhole
        obtain ⟨fraction, rfl, hf⟩ := readFraction_eq_some hfraction
        obtain ⟨exponent, rfl, he⟩ := readExponent_eq_some hexponent
        refine ⟨rfl, whole, fraction, exponent, ?_, hw, hws, hf, he⟩
        rw [List.append_assoc, List.append_assoc]

/-- A number is read off the front of a text. -/
theorem readNumber_eq_some {cs rest : List Char} {n : NumberLiteral}
    (h : readNumber cs = some (n, rest)) : ∃ w, cs = w ++ rest ∧ SpellsNumber w n := by
  unfold readNumber at h
  split at h
  next cs' =>
    obtain ⟨hn, whole, fraction, exponent, rfl, hw, hws, hf, he⟩ := readUnsigned_eq_some h
    exact ⟨'-' :: (whole ++ (fraction ++ exponent)), rfl, whole, fraction, exponent,
      by rw [hn]; rfl, hw, hws, hf, he⟩
  next =>
    obtain ⟨hn, whole, fraction, exponent, rfl, hw, hws, hf, he⟩ := readUnsigned_eq_some h
    exact ⟨_, rfl, whole, fraction, exponent, by rw [hn]; rfl, hw, hws, hf, he⟩

theorem readFraction_of_spells {cs : List Char} {f : Option (List Nat)} (h : SpellsFraction cs f)
    {rest : List Char} (hrest : ∀ c ∈ rest.head?, c.isDigit = false ∧ c ≠ '.') :
    readFraction (cs ++ rest) = some (f, rest) := by
  cases h with
  | none =>
    rw [List.nil_append]
    unfold readFraction
    split
    · exact absurd rfl (hrest '.' rfl).2
    · rfl
  | some hds =>
    obtain ⟨v, vs, rfl⟩ := List.exists_cons_of_ne_nil hds.ne_nil
    have hdigits := digits_of_spells hds fun c hc => (hrest c hc).1
    rw [List.cons_append, readFraction, hdigits]

theorem exponentSign_of_spells {sign cs : List Char} {minus : Bool} (h : SpellsSign sign minus)
    (hcs : ∀ c ∈ cs.head?, c.isDigit) : exponentSign (sign ++ cs) = (minus, cs) := by
  cases h with
  | none =>
    rw [List.nil_append]
    unfold exponentSign
    split
    · exact absurd (hcs '+' rfl) (by decide)
    · exact absurd (hcs '-' rfl) (by decide)
    · rfl
  | plus => rfl
  | minus => rfl

theorem SpellsDigits.isDigit_head {cs : List Char} {ds : List Nat} (h : SpellsDigits cs ds)
    (rest : List Char) : ∀ c ∈ (cs ++ rest).head?, c.isDigit := by
  obtain ⟨⟨hne, hdigits⟩, -⟩ := h
  obtain ⟨d, cs, rfl⟩ := List.exists_cons_of_ne_nil hne
  rintro _ ⟨⟩
  exact hdigits d List.mem_cons_self

theorem readExponent_of_spells {cs : List Char} {e : Option (Bool × List Nat)}
    (h : SpellsExponent cs e) {rest : List Char} (hrest : EndsNumber rest) :
    readExponent (cs ++ rest) = some (e, rest) := by
  cases h with
  | none =>
    cases rest with
    | nil => rfl
    | cons c cs =>
      obtain ⟨-, -, he, hE⟩ := hrest c rfl
      exact if_neg (not_or.mpr ⟨he, hE⟩)
  | some he hsign hds =>
    have hdigits := digits_of_spells hds fun c hc => (hrest c hc).1
    have hread := exponentSign_of_spells hsign (hds.isDigit_head rest)
    obtain ⟨v, vs, rfl⟩ := List.exists_cons_of_ne_nil hds.ne_nil
    rw [List.cons_append, List.append_assoc, readExponent, if_pos he, hread]
    simp only [hdigits]

theorem SpellsExponent.stops {cs rest : List Char} {e : Option (Bool × List Nat)}
    (h : SpellsExponent cs e) (hrest : EndsNumber rest) :
    ∀ c ∈ (cs ++ rest).head?, c.isDigit = false ∧ c ≠ '.' := by
  cases h with
  | none =>
    intro c hc
    obtain ⟨hdigit, hpoint, -⟩ := hrest c hc
    exact ⟨hdigit, hpoint⟩
  | some he _ _ =>
    rintro c ⟨⟩
    obtain rfl | rfl := he <;> decide

theorem SpellsFraction.stops {cs rest : List Char} {f : Option (List Nat)}
    (h : SpellsFraction cs f) (hrest : ∀ c ∈ rest.head?, c.isDigit = false) :
    ∀ c ∈ (cs ++ rest).head?, c.isDigit = false := by
  cases h with
  | none => exact hrest
  | some _ =>
    rintro c ⟨⟩
    rfl

/-- The whole of a number is read, unless what follows goes on like a number. -/
theorem readNumber_of_spells {cs : List Char} {n : NumberLiteral} (h : SpellsNumber cs n)
    {rest : List Char} (hrest : EndsNumber rest) : readNumber (cs ++ rest) = some (n, rest) := by
  obtain ⟨negative, ws, f, e⟩ := n
  obtain ⟨whole, fraction, exponent, rfl, hw, hws, hf, he⟩ := h
  have hexponent := he.stops hrest
  have hfraction := hf.stops fun c hc => (hexponent c hc).1
  have hds : (digits whole).1 = ws := by
    have hread : digits (whole ++ []) = (ws, []) := digits_of_spells hws fun c hc => by cases hc
    rw [List.append_nil] at hread
    rw [hread]
  have hwhole := readWhole_append hw hfraction
  rw [hds] at hwhole
  have hunsigned (minus : Bool) :
      readUnsigned minus (whole ++ (fraction ++ exponent) ++ rest) =
        some (⟨minus, ws, f, e⟩, rest) := by
    rw [List.append_assoc, List.append_assoc]
    simp only [readUnsigned, hwhole, readFraction_of_spells hf hexponent,
      readExponent_of_spells he hrest]
  cases negative with
  | true => exact hunsigned true
  | false =>
    show readNumber (whole ++ (fraction ++ exponent) ++ rest) = _
    have hunsigned := hunsigned false
    obtain ⟨c, cs, rfl⟩ := List.exists_cons_of_ne_nil hw.1.1
    have hminus : c ≠ '-' := by
      rintro rfl
      exact absurd (hw.1.2 '-' List.mem_cons_self) (by decide)
    exact (readNumber.eq_2 _ fun _ h => hminus (List.cons.inj h).1).trans hunsigned

/-- What is formed like a number is some number. -/
theorem Numeral.exists_spells {cs : List Char} (h : Numeral cs) : ∃ n, SpellsNumber cs n := by
  obtain ⟨minus, -, rfl, whole, fraction, exponent, rfl, hwhole, hfraction, hexponent⟩ := h
  have hf : ∃ f, SpellsFraction fraction f := by
    obtain rfl | ⟨ds, rfl, hds⟩ := hfraction
    · exact ⟨_, .none⟩
    · exact ⟨_, .some ⟨hds, rfl⟩⟩
  have he : ∃ e, SpellsExponent exponent e := by
    obtain rfl | ⟨sign, ds, rfl, rfl | rfl, hds⟩ := hexponent
    · exact ⟨_, .none⟩
    · exact ⟨_, .some (.inl rfl) .plus ⟨hds, rfl⟩⟩
    · exact ⟨_, .some (.inl rfl) .minus ⟨hds, rfl⟩⟩
  obtain ⟨f, hf⟩ := hf
  obtain ⟨e, he⟩ := he
  exact ⟨⟨minus, _, f, e⟩, whole, fraction, exponent, rfl, hwhole, ⟨hwhole.1, rfl⟩, hf, he⟩

end ExecutionLink.Json
