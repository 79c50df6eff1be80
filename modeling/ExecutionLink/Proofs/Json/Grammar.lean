/-
Which trees hold a value.

A format is a program that goes through a tree from left to right.  What it takes
is said here without any program:

* `Tree.HasMembers` — the tree is an object with these members, their keys
  unescaped;
* `HoldsRecord` — each declared key is the key of just one member, whose value
  holds the field, whatever other members there are as long as their keys stand for
  texts; or the tree is an array that holds the fields in their order;
* `IsText`, `IsBytes`, `IsQuantity`, `IsInteger64`, `IsList`, `IsOptional` — what holds a
  field;
* `Format.Reads` — the format takes from complete trees exactly what they hold.
  It is shown for single values and carried over to lists (`Format.Reads.list`) and
  records (`Format.Reads.record`).
* `Format.Reads.read_eq_ok` — so a text is read as a value if it spells a tree that
  holds the value.
-/
import ExecutionLink.Proofs.Json.Formats
import ExecutionLink.Proofs.Json.Spelling
import Mathlib.Algebra.GroupWithZero.Nat
import Mathlib.Data.List.Forall2

namespace ExecutionLink.Json

/-- An object with these members, in the order in which they are written. Every key must
stand for a text, whether or not a format declares it: a key with an escape that stands for
no character, such as one half of a surrogate pair, makes the whole text unreadable. -/
def Tree.HasMembers (t : Tree) (members : List (String × Tree)) : Prop :=
  ∃ written, t = .object written true ∧
    List.Forall₂ (fun w m => text? w.1 = some m.1 ∧ w.2 = m.2) written members

/-- The members with a key. -/
def membersNamed (key : String) (members : List (String × Tree)) : List (String × Tree) :=
  members.filter fun m => m.1 = key

/-- An object in which each declared key occurs once and has a value that holds
the field, or an array of such values in the declared order. -/
def HoldsRecord (fields : List (String × (Tree → Prop))) (t : Tree) : Prop :=
  (∃ members, t.HasMembers members ∧
    ∀ field ∈ fields, ∃ v, membersNamed field.1 members = [(field.1, v)] ∧ field.2 v) ∨
  ∃ items, t = .array items true ∧ List.Forall₂ (fun field v => field.2 v) fields items

/-- A string that stands for the text. -/
def IsText (s : String) (t : Tree) : Prop :=
  ∃ l, t = .string l ∧ text? l = some s

/-- A string of hexadecimal digits that stands for the bytes. -/
def IsBytes {n : Nat} (b : FixedBytes n) (t : Tree) : Prop :=
  ∃ s, IsText s t ∧ FixedBytes.parse n s = .ok b

/-- A string of decimal digits that stands for the number, or the number itself,
written without sign, fraction and exponent. -/
def IsQuantity (n : UInt64) (t : Tree) : Prop :=
  (∃ s, IsText s t ∧ Text.Natural.read s = .ok n) ∨
  ∃ l, t = .number l ∧ l.negative = false ∧ l.fraction = none ∧ l.exponent = none ∧
    Number.ofDigits l.whole = n.toNat

/-- A number of 64 bits with a sign, written without fraction and exponent. Zero
with a sign is none. -/
def IsInteger64 (n : Int) (t : Tree) : Prop :=
  ∃ l, t = .number l ∧ l.fraction = none ∧ l.exponent = none ∧
    (l.negative = false ∧ Number.ofDigits l.whole < 2 ^ 63 ∧ n = Number.ofDigits l.whole ∨
      l.negative = true ∧ 0 < Number.ofDigits l.whole ∧ Number.ofDigits l.whole ≤ 2 ^ 63 ∧
        n = -Number.ofDigits l.whole)

/-- An array whose items hold the values. -/
def IsList {α : Type} (holds : α → Tree → Prop) (as : List α) (t : Tree) : Prop :=
  ∃ items, t = .array items true ∧ List.Forall₂ holds as items

/-- What is found for a member that may be missing or null. -/
def IsOptional {α : Type} (holds : α → Tree → Prop) : Option α → List Tree → Prop
  | none, found => found = [] ∨ found = [.null]
  | some a, found => ∃ t, found = [t] ∧ t ≠ .null ∧ holds a t

/-! ### Single values -/

/-- If `depth` more containers may be opened, the format takes from a complete
tree exactly what the tree holds. -/
def Format.Reads {α : Type} (f : Format α) (depth : Nat) (holds : α → Tree → Prop) : Prop :=
  ∀ room t a, depth ≤ room → t.isComplete → (f.decode room t = .ok a ↔ holds a t)

namespace Tree

variable {room : Nat} {t : Tree}

theorem value?_eq_string {s : String} : t.value? room = some (.string s) ↔ IsText s t := by
  cases t with
  | string l => simp [value?, IsText]
  | array items closed => cases room <;> simp [value?, IsText]
  | object members closed => cases room <;> simp [value?, IsText]
  | _ => simp [value?, IsText]

theorem value?_eq_number {n : Number} :
    t.value? room = some (.number n) ↔ ∃ l, t = .number l ∧ Number.ofLiteral? l = some n := by
  cases t with
  | number l => simp [value?]
  | array items closed => cases room <;> simp [value?]
  | object members closed => cases room <;> simp [value?]
  | _ => simp [value?]

end Tree

theorem eq_real_of_real? {l : NumberLiteral} {n : Number} (h : Number.real? l = some n) :
    ∃ x, n = .real l.negative x := by
  obtain ⟨x, -, rfl⟩ := Option.map_eq_some_iff.mp h
  exact ⟨x, rfl⟩

theorem natural_of_literal {l : NumberLiteral} {n : UInt64} :
    Number.ofLiteral? l = some (.natural n) ↔
      l.negative = false ∧ l.fraction = none ∧ l.exponent = none ∧
        Number.ofDigits l.whole = n.toNat := by
  -- a literal that is not an unsigned integer is no natural number
  have hreal : Number.real? l ≠ some (.natural n) := by
    intro h
    obtain ⟨x, ⟨⟩⟩ := eq_real_of_real? h
  have hsize : n.toNat < UInt64.size := n.toNat_lt
  unfold Number.ofLiteral?
  split
  next hplain =>
    obtain ⟨hfraction, hexponent⟩ := Bool.and_eq_true_iff.mp hplain
    rw [Option.isNone_iff_eq_none] at hfraction hexponent
    simp only [hfraction, hexponent, true_and]
    cases l.negative with
    | true =>
      rw [if_pos rfl]
      split
      next => exact iff_of_false (by simp) (by simp)
      next => exact iff_of_false hreal (by simp)
    | false =>
      rw [if_neg Bool.false_ne_true]
      split
      next hlt =>
        simp only [true_and, Option.some.injEq, Number.natural.injEq]
        constructor
        · rintro rfl
          exact (UInt64.toNat_ofNat_of_lt' hlt).symm
        · intro h
          rw [h]
          exact UInt64.ofNat_toNat
      next hlarge => exact iff_of_false hreal fun h => hlarge (h.2 ▸ hsize)
  next hplain =>
    refine iff_of_false hreal ?_
    rintro ⟨-, hfraction, hexponent, -⟩
    exact hplain (by rw [hfraction, hexponent]; rfl)

theorem negative_of_literal {l : NumberLiteral} {m : Nat} :
    Number.ofLiteral? l = some (.negative m) ↔
      l.negative = true ∧ l.fraction = none ∧ l.exponent = none ∧ 0 < m ∧ m ≤ 2 ^ 63 ∧
        Number.ofDigits l.whole = m := by
  -- a literal that is no integer of 64 bits is a floating-point number
  have hreal : Number.real? l ≠ some (.negative m) := by
    intro h
    obtain ⟨x, ⟨⟩⟩ := eq_real_of_real? h
  unfold Number.ofLiteral?
  split
  next hplain =>
    obtain ⟨hfraction, hexponent⟩ := Bool.and_eq_true_iff.mp hplain
    rw [Option.isNone_iff_eq_none] at hfraction hexponent
    simp only [hfraction, hexponent, true_and]
    cases l.negative with
    | false =>
      rw [if_neg Bool.false_ne_true]
      split
      next => exact iff_of_false (by simp) (by simp)
      next => exact iff_of_false hreal (by simp)
    | true =>
      rw [if_pos rfl]
      split
      next hrange =>
        simp only [true_and, Option.some.injEq, Number.negative.injEq]
        constructor
        · rintro rfl
          exact ⟨hrange.1, hrange.2, rfl⟩
        · rintro ⟨-, -, h⟩
          exact h
      next hlarge =>
        refine iff_of_false hreal ?_
        rintro ⟨-, hpos, hle, rfl⟩
        exact hlarge ⟨hpos, hle⟩
  next hplain =>
    refine iff_of_false hreal ?_
    rintro ⟨-, hfraction, hexponent, -⟩
    exact hplain (by rw [hfraction, hexponent]; rfl)

namespace Format

variable {depth : Nat}

theorem reads_text : text.Reads depth IsText := by
  intro room t s _ _
  exact decodeText_eq_ok

theorem reads_bytes {n : Nat} : (bytes n).Reads depth IsBytes := by
  intro room t b _ _
  show (decodeText t >>= _) = .ok b ↔ _
  simp only [bind_eq_ok, decodeText_eq_ok, mapError_eq_ok]
  rfl

theorem reads_quotedInteger : quotedInteger.Reads depth IsQuantity := by
  intro room t n _ _
  have hdecode : quotedInteger.decode room t = .ok n ↔
      (∃ s, t.value? room = some (.string s) ∧ Text.Natural.read s = .ok n) ∨
        t.value? room = some (.number (.natural n)) := by
    simp only [quotedInteger]
    generalize t.value? room = o
    cases o with
    | none => simp
    | some v =>
      cases v with
      | string s => simp [mapError_eq_ok]
      | number m => cases m <;> simp
      | _ => simp
  rw [hdecode]
  refine or_congr (exists_congr fun s => and_congr_left fun _ => Tree.value?_eq_string) ?_
  rw [Tree.value?_eq_number]
  exact exists_congr fun l => and_congr_right fun _ => natural_of_literal

theorem reads_integer64 : integer64.Reads depth IsInteger64 := by
  intro room t n _ _
  have hdecode : integer64.decode room t = .ok n ↔ ∃ l, t = .number l ∧
      ((∃ m, Number.ofLiteral? l = some (.natural m) ∧ m.toNat < 2 ^ 63 ∧ n = m.toNat) ∨
        ∃ m, Number.ofLiteral? l = some (.negative m) ∧ n = -m) := by
    simp only [integer64, bind_eq_ok, decodeNumber_eq_ok]
    constructor
    · rintro ⟨number, ⟨l, rfl, hl⟩, hn⟩
      refine ⟨l, rfl, ?_⟩
      cases number with
      | natural m =>
        by_cases hlt : m.toNat < Nat.pow 2 63
        · simp only [if_pos hlt] at hn
          cases hn
          exact .inl ⟨m, hl, hlt, rfl⟩
        · simp only [if_neg hlt] at hn
          cases hn
      | negative m =>
        cases hn
        exact .inr ⟨m, hl, rfl⟩
      | real minus x => cases hn
    · rintro ⟨l, rfl, ⟨m, hl, hlt, rfl⟩ | ⟨m, hl, rfl⟩⟩
      · exact ⟨.natural m, ⟨l, rfl, hl⟩, if_pos hlt⟩
      · exact ⟨.negative m, ⟨l, rfl, hl⟩, rfl⟩
  rw [hdecode]
  refine exists_congr fun l => and_congr_right fun _ => ?_
  simp only [natural_of_literal, negative_of_literal]
  constructor
  · rintro (⟨m, ⟨hsign, hfraction, hexponent, hdigits⟩, hlt, rfl⟩ |
      ⟨m, ⟨hsign, hfraction, hexponent, hpos, hle, rfl⟩, rfl⟩)
    · rw [← hdigits] at hlt ⊢
      exact ⟨hfraction, hexponent, .inl ⟨hsign, hlt, rfl⟩⟩
    · exact ⟨hfraction, hexponent, .inr ⟨hsign, hpos, hle, rfl⟩⟩
  · rintro ⟨hfraction, hexponent, ⟨hsign, hlt, rfl⟩ | ⟨hsign, hpos, hle, rfl⟩⟩
    · -- what is below half the range of the words is itself as a word
      have hword : (UInt64.ofNat (Number.ofDigits l.whole)).toNat = Number.ofDigits l.whole :=
        UInt64.toNat_ofNat_of_lt' (by rw [UInt64.size]; omega)
      refine .inl ⟨_, ⟨hsign, hfraction, hexponent, hword.symm⟩, ?_, ?_⟩
      · rw [hword]
        exact hlt
      · rw [hword]
    · exact .inr ⟨_, ⟨hsign, hfraction, hexponent, hpos, hle, rfl⟩, rfl⟩

/-! ### Lists -/

theorem Reads.mapM {α : Type} {f : Format α} {holds : α → Tree → Prop} (hf : f.Reads depth holds)
    {room : Nat} (hroom : depth ≤ room) {items : List Tree} (hitems : ∀ t ∈ items, t.isComplete)
    {as : List α} :
    items.mapM (f.decode room) = .ok as ↔ List.Forall₂ holds as items := by
  induction items generalizing as with
  | nil =>
    rw [List.mapM_nil, List.forall₂_nil_right_iff]
    exact ⟨fun h => (Except.ok.inj h).symm, fun h => h ▸ rfl⟩
  | cons t items ih =>
    obtain ⟨ht, hitems⟩ := List.forall_mem_cons.mp hitems
    rw [List.mapM_cons, List.forall₂_cons_right_iff, bind_eq_ok]
    refine exists_congr fun a => ?_
    rw [hf room t a hroom ht, bind_eq_ok]
    constructor
    · rintro ⟨ha, as', has, ⟨⟩⟩
      exact ⟨as', ha, (ih hitems).mp has, rfl⟩
    · rintro ⟨as', ha, has, rfl⟩
      exact ⟨ha, as', (ih hitems).mpr has, rfl⟩

theorem Reads.list {α : Type} {f : Format α} {holds : α → Tree → Prop}
    (hf : f.Reads depth holds) : f.list.Reads (depth + 1) (IsList holds) := by
  intro room t as hroom ht
  obtain ⟨room, rfl⟩ : ∃ r, room = r + 1 := ⟨room - 1, by omega⟩
  have hdecode : f.list.decode (room + 1) t = .ok as ↔
      ∃ items, t = .array items true ∧ items.mapM (f.decode room) = .ok as := by
    cases t with
    | array items closed =>
      show (items.mapM (f.decode room) >>= _) = .ok as ↔ _
      rw [bind_eq_ok]
      cases closed with
      | true =>
        constructor
        · rintro ⟨_, h, ⟨⟩⟩
          exact ⟨items, rfl, h⟩
        · rintro ⟨_, ⟨⟩, h⟩
          exact ⟨as, h, rfl⟩
      | false => simp
    | _ => simp [Format.list]
  rw [hdecode]
  refine exists_congr fun items => and_congr_right fun htree => ?_
  subst htree
  exact hf.mapM (by omega) (Tree.allComplete_iff.mp (Bool.and_eq_true_iff.mp ht).1)

end Format

/-! ### Records -/

/-- The keys are texts. -/
def LegibleKeys (written : List (StringLiteral × Tree)) : Prop :=
  ∀ w ∈ written, ∃ key, text? w.1 = some key

/-- Members that are complete can be skipped. -/
theorem legible_iff {names : List String} {written : List (StringLiteral × Tree)}
    (hcomplete : ∀ w ∈ written, w.2.isComplete) :
    Fields.Legible names written ↔ LegibleKeys written :=
  forall₂_congr fun w hw => exists_congr fun _ => and_iff_left (.inr (hcomplete w hw))

theorem forall₂_texts_iff {written : List (StringLiteral × Tree)} :
    LegibleKeys written ↔ ∃ members : List (String × Tree),
        List.Forall₂ (fun w m => text? w.1 = some m.1 ∧ w.2 = m.2) written members := by
  induction written with
  | nil => exact iff_of_true (List.forall_mem_nil _) ⟨[], .nil⟩
  | cons w written ih =>
    rw [LegibleKeys, List.forall_mem_cons, ← LegibleKeys, ih]
    constructor
    · rintro ⟨⟨key, hkey⟩, members, h⟩
      exact ⟨(key, w.2) :: members, .cons ⟨hkey, rfl⟩ h⟩
    · rintro ⟨members, h⟩
      cases h with
      | cons hm h => exact ⟨⟨_, hm.1⟩, _, h⟩

theorem membersNamed_cons_self (key : String) (t : Tree) (members : List (String × Tree)) :
    membersNamed key ((key, t) :: members) = (key, t) :: membersNamed key members :=
  List.filter_cons_of_pos (decide_eq_true rfl)

theorem membersNamed_cons_of_ne {key key' : String} (h : key' ≠ key) (t : Tree)
    (members : List (String × Tree)) :
    membersNamed key ((key', t) :: members) = membersNamed key members :=
  List.filter_cons_of_neg (by simpa using h)

/-- The values under a key are those of the members with this key. -/
theorem under_eq_map {written : List (StringLiteral × Tree)} {members : List (String × Tree)}
    (h : List.Forall₂ (fun w m => text? w.1 = some m.1 ∧ w.2 = m.2) written members)
    (key : String) : Tree.under key written = (membersNamed key members).map Prod.snd := by
  induction h with
  | nil => rfl
  | @cons w m written members hm _ ih =>
    obtain ⟨k, t⟩ := w
    obtain ⟨key', t'⟩ := m
    obtain ⟨hk, rfl⟩ := hm
    by_cases heq : key' = key
    · subst heq
      rw [Tree.under_cons_self hk, membersNamed_cons_self, ih]
      rfl
    · rw [Tree.under_cons_of_ne hk heq, membersNamed_cons_of_ne heq, ih]

theorem isComplete_of_mem_under {written : List (StringLiteral × Tree)}
    (hcomplete : ∀ w ∈ written, w.2.isComplete) {key : String} {t : Tree}
    (h : t ∈ Tree.under key written) : t.isComplete := by
  obtain ⟨⟨k, u⟩, hmem, hu⟩ := List.mem_filterMap.mp h
  obtain ⟨-, ⟨⟩⟩ := Option.ite_none_right_eq_some.mp hu
  exact hcomplete _ hmem

theorem key_of_mem_membersNamed {key : String} {members : List (String × Tree)}
    {m : String × Tree} (h : m ∈ membersNamed key members) : m.1 = key := by
  simpa using (List.mem_filter.mp h).2

theorem map_membersNamed_eq_singleton {key : String} {members : List (String × Tree)} {t : Tree} :
    (membersNamed key members).map Prod.snd = [t] ↔ membersNamed key members = [(key, t)] := by
  constructor
  · intro h
    obtain ⟨m, hm, rfl⟩ := List.map_eq_singleton_iff.mp h
    have hkey : m.1 = key := key_of_mem_membersNamed (by rw [hm]; exact List.mem_cons_self)
    rw [hm, ← hkey]
  · intro h
    rw [h]
    rfl

/-- The fields must all be given, `spec` says what holds them, and the format of each
is related to that. -/
inductive Fields.Each (P : (α : Type) → Format α → (α → Tree → Prop) → Prop) :
    {α : Type} → Fields α → (α → List (String × (Tree → Prop))) → Prop
  | nil : Fields.Each P .nil fun _ => []
  | cons {α β : Type} {name : String} {format : Format α} {rest : Fields β}
      {holds : α → Tree → Prop} {spec : β → List (String × (Tree → Prop))}
      (first : P α format holds) (others : Fields.Each P rest spec) :
      Fields.Each P (.required name format rest) fun (a, as) => (name, holds a) :: spec as

/-- The formats of the fields read what holds them. -/
abbrev Fields.Read {α : Type} (depth : Nat) (fields : Fields α)
    (spec : α → List (String × (Tree → Prop))) : Prop :=
  Fields.Each (fun _ f holds => f.Reads depth holds) fields spec

namespace Fields

variable {α : Type} {depth room : Nat} {fields : Fields α}
  {spec : α → List (String × (Tree → Prop))}

theorem Read.ofMembers (h : fields.Read depth spec) (hroom : depth ≤ room)
    {written : List (StringLiteral × Tree)} {members : List (String × Tree)}
    (hwritten : List.Forall₂ (fun w m => text? w.1 = some m.1 ∧ w.2 = m.2) written members)
    (hcomplete : ∀ w ∈ written, w.2.isComplete) (a : α) :
    fields.OfMembers room written a ↔
      ∀ field ∈ spec a, ∃ v, membersNamed field.1 members = [(field.1, v)] ∧ field.2 v := by
  induction h with
  | nil => exact iff_of_true trivial (List.forall_mem_nil _)
  | @cons _ _ name format rest holds spec first others ih =>
    obtain ⟨a, as⟩ := a
    rw [List.forall_mem_cons, ← ih]
    refine and_congr_left fun _ => ?_
    rw [supplied_none]
    refine exists_congr fun t => ?_
    have hfound : Tree.under name written = [t] ↔ membersNamed name members = [(name, t)] := by
      rw [under_eq_map hwritten, map_membersNamed_eq_singleton]
    rw [← hfound]
    refine and_congr_right fun hunder => first room t a hroom ?_
    exact isComplete_of_mem_under hcomplete (by rw [hunder]; exact List.mem_cons_self)

theorem Read.ofItems (h : fields.Read depth spec) (hroom : depth ≤ room) {items : List Tree}
    (hcomplete : ∀ t ∈ items, t.isComplete) (a : α) :
    fields.OfItems room items a ↔ List.Forall₂ (fun field v => field.2 v) (spec a) items := by
  induction h generalizing items with
  | nil => rw [ofItems_nil, List.forall₂_nil_left_iff]
  | @cons _ _ name format rest holds spec first others ih =>
    obtain ⟨a, as⟩ := a
    rw [required, ofItems_cons, List.forall₂_cons_left_iff]
    constructor
    · rintro ⟨t, ts, rfl, ha, has⟩
      obtain ⟨ht, hts⟩ := List.forall_mem_cons.mp hcomplete
      exact ⟨t, ts, (first room t a hroom ht).mp ha, (ih hts as).mp has, rfl⟩
    · rintro ⟨t, ts, ha, has, rfl⟩
      obtain ⟨ht, hts⟩ := List.forall_mem_cons.mp hcomplete
      exact ⟨t, ts, rfl, (first room t a hroom ht).mpr ha, (ih hts as).mpr has⟩

theorem Read.heldBy (h : fields.Read depth spec) (hroom : depth ≤ room) {t : Tree}
    (ht : t.isComplete) (a : α) : fields.HeldBy room t a ↔ HoldsRecord (spec a) t := by
  refine or_congr ?_ ?_
  · constructor
    · rintro ⟨written, rfl, hlegible, hof⟩
      have hcomplete := Tree.allMembersComplete_iff.mp (Bool.and_eq_true_iff.mp ht).1
      obtain ⟨members, hwritten⟩ := forall₂_texts_iff.mp ((legible_iff hcomplete).mp hlegible)
      exact ⟨members, ⟨written, rfl, hwritten⟩, (h.ofMembers hroom hwritten hcomplete a).mp hof⟩
    · rintro ⟨members, ⟨written, rfl, hwritten⟩, hfields⟩
      have hcomplete := Tree.allMembersComplete_iff.mp (Bool.and_eq_true_iff.mp ht).1
      have hkeys : LegibleKeys written := forall₂_texts_iff.mpr ⟨members, hwritten⟩
      exact ⟨written, rfl, (legible_iff hcomplete).mpr hkeys,
        (h.ofMembers hroom hwritten hcomplete a).mpr hfields⟩
  · refine exists_congr fun items => and_congr_right fun htree => ?_
    subst htree
    exact h.ofItems hroom (Tree.allComplete_iff.mp (Bool.and_eq_true_iff.mp ht).1) a

end Fields

/-! ### Optional values -/

/-- Null is as good as nothing. -/
theorem isOptional_null {α : Type} {holds : α → Tree → Prop} {o : Option α} :
    IsOptional holds o [.null] ↔ IsOptional holds o [] := by
  cases o <;> simp [IsOptional]

namespace Fields

theorem supplied_optional {α : Type} {f : Format α} {holds : α → Tree → Prop} {room : Nat}
    {found : List Tree} (hf : ∀ t ∈ found, ∀ a, f.decode room t = .ok a ↔ holds a t)
    {o : Option α} :
    Supplied f.optional room (some none) found o ↔ IsOptional holds o found := by
  rcases found with _ | ⟨t, _ | ⟨u, us⟩⟩
  · cases o <;> simp [Supplied, IsOptional]
  · rw [Supplied, Format.decode_optional_eq_ok]
    have ht : ∀ a, f.decode room t = .ok a ↔ holds a t := hf t List.mem_cons_self
    cases o <;> simp [IsOptional, ht, eq_comm]
  · cases o <;> simp [Supplied, IsOptional]

/-- Two such fields in an array: the first item, and what comes behind it. -/
theorem ofItems_omissible {α β : Type} {name name' : String} {f : Format α} {g : Format β}
    {room : Nat} {items : List Tree} {a : Option α} {b : Option β} :
    (omissible name f (.omissible name' g .nil)).OfItems room items (a, b, ()) ↔
      Supplied f.optional room (some none) (items.take 1) a ∧
        Supplied g.optional room (some none) (items.drop 1) b := by
  rcases items with _ | ⟨t, _ | ⟨u, _ | ⟨w, ws⟩⟩⟩ <;>
    simp [omissible, OfItems, Supplied]

end Fields

namespace Format

variable {α β : Type} {depth : Nat}

theorem Reads.record {name : String} {fields : Fields β} {toFields : α → β} {ofFields : β → α}
    {spec : β → List (String × (Tree → Prop))} (hfields : fields.Read depth spec)
    (hnodup : fields.names.Nodup) (hof : ∀ a, ofFields (toFields a) = a)
    (hto : ∀ b, toFields (ofFields b) = b) :
    (record name fields toFields ofFields).Reads (depth + 1) fun a =>
      HoldsRecord (spec (toFields a)) := by
  intro room t a hroom ht
  obtain ⟨room, rfl⟩ : ∃ r, room = r + 1 := ⟨room - 1, by omega⟩
  show _ ↔ HoldsRecord (spec (toFields a)) t
  rw [decode_record_eq_ok_iff_heldBy hnodup hof hto, hfields.heldBy (by omega : depth ≤ room) ht]

/-- A text is read as what is taken from the tree that it spells. -/
theorem read_eq_ok_iff_spells {f : Format α} {s : String} {a : α} :
    f.read s = .ok a ↔ ∃ t, Spells s t ∧ f.decode documentRoom t = .ok a := by
  rw [Format.read_eq_ok]
  constructor
  · rintro ⟨hcomplete, hdecode⟩
    refine ⟨_, ?_, hdecode⟩
    rw [← Document.ofText_eq_iff, ← hcomplete]
  · rintro ⟨t, hspells, hdecode⟩
    rw [Document.ofText_eq_iff.mpr hspells]
    exact ⟨rfl, hdecode⟩

/-- A text is read as a value if it spells a tree that holds the value. -/
theorem Reads.read_eq_ok {f : Format α} {holds : α → Tree → Prop} (hf : f.Reads depth holds)
    (hdepth : depth ≤ documentRoom) {s : String} {a : α} :
    f.read s = .ok a ↔ ∃ t, Spells s t ∧ holds a t := by
  rw [read_eq_ok_iff_spells]
  exact exists_congr fun t => and_congr_right fun ht => hf _ t a hdepth ht.1

end Format

end ExecutionLink.Json
