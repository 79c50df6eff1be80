/-
What does not matter to the reader of a record, and what always stops it.

A shape says at which places of a tree there are records and what their keys are.
Two trees are alike if at all these places they have the same values under the
declared keys, whatever the order of the members and whatever other members there
are.  A tree is defective if at one of these places a declared key is missing or
occurs again.

* `Shape.Respects` — alike trees hold the same values, and defective ones none.
* `Shape.Respects.list`, `Shape.Respects.record` — lists and records respect the
  shapes made up of those of their items and fields.
-/
import ExecutionLink.Proofs.Json.Grammar

namespace ExecutionLink.Json

/-- When trees are alike, and when one is defective. -/
structure Shape where
  alike : Tree → Tree → Prop
  defective : Tree → Prop

namespace Shape

/-- A value without any records in it. -/
def value : Shape where
  alike t t' := t = t'
  defective _ := False

/-- An array of items. -/
def list (item : Shape) : Shape where
  alike t t' := ∃ items items', t = .array items true ∧ t' = .array items' true ∧
    List.Forall₂ item.alike items items'
  defective t := ∃ items, t = .array items true ∧ ∃ u ∈ items, item.defective u

/-- A record with these keys, as an object or as an array. -/
def record (fields : List (String × Shape)) : Shape where
  alike t t' :=
    (∃ members members', t.HasMembers members ∧ t'.HasMembers members' ∧
      ∀ field ∈ fields, List.Forall₂ (fun m m' => field.2.alike m.2 m'.2)
        (membersNamed field.1 members) (membersNamed field.1 members')) ∨
    ∃ pairs : List (Tree × Tree), t = .array (pairs.map Prod.fst) true ∧
      t' = .array (pairs.map Prod.snd) true ∧
      List.Forall₂ (fun field p => field.2.alike p.1 p.2) fields pairs
  defective t :=
    (∃ members, t.HasMembers members ∧ ∃ field ∈ fields,
      (membersNamed field.1 members).length ≠ 1 ∨
        ∃ m ∈ membersNamed field.1 members, field.2.defective m.2) ∨
    ∃ items, t = .array items true ∧ ∃ p ∈ fields.zip items, p.1.2.defective p.2

/-- Alike trees hold the same, and defective ones do not. -/
structure Respects (shape : Shape) (holds : Tree → Prop) : Prop where
  congr : ∀ t t', shape.alike t t' → (holds t ↔ holds t')
  refuses : ∀ t, shape.defective t → ¬holds t

theorem respects_value (holds : Tree → Prop) : value.Respects holds where
  congr := by
    rintro t _ rfl
    rfl
  refuses _ h := h.elim

theorem forall₂_congr_right {α : Type} {holds : α → Tree → Prop} {alike : Tree → Tree → Prop}
    (h : ∀ a t t', alike t t' → (holds a t ↔ holds a t')) {items items' : List Tree}
    (hitems : List.Forall₂ alike items items') {as : List α} :
    List.Forall₂ holds as items ↔ List.Forall₂ holds as items' := by
  induction hitems generalizing as with
  | nil => rfl
  | cons ht _ ih =>
    rw [List.forall₂_cons_right_iff, List.forall₂_cons_right_iff]
    refine exists_congr fun a => exists_congr fun as' => ?_
    rw [h a _ _ ht, ih]

theorem exists_of_forall₂ {α β : Type} {r : α → β → Prop} {as : List α} {bs : List β}
    (h : List.Forall₂ r as bs) {b : β} (hb : b ∈ bs) : ∃ a ∈ as, r a b := by
  induction h with
  | nil => cases hb
  | cons hr _ ih =>
    rcases List.mem_cons.mp hb with rfl | hb
    · exact ⟨_, List.mem_cons_self, hr⟩
    · obtain ⟨a, ha, hab⟩ := ih hb
      exact ⟨a, List.mem_cons_of_mem _ ha, hab⟩

theorem Respects.list {α : Type} {item : Shape} {holds : α → Tree → Prop}
    (h : ∀ a, item.Respects (holds a)) (as : List α) : item.list.Respects (IsList holds as) where
  congr := by
    rintro _ _ ⟨items, items', rfl, rfl, hitems⟩
    have hiff : List.Forall₂ holds as items ↔ List.Forall₂ holds as items' :=
      forall₂_congr_right (fun a t t' => (h a).congr t t') hitems
    constructor
    · rintro ⟨_, ⟨⟩, has⟩
      exact ⟨items', rfl, hiff.mp has⟩
    · rintro ⟨_, ⟨⟩, has⟩
      exact ⟨items, rfl, hiff.mpr has⟩
  refuses := by
    rintro _ ⟨items, rfl, u, hu, hdefective⟩ ⟨_, ⟨⟩, has⟩
    obtain ⟨a, -, ha⟩ := exists_of_forall₂ has hu
    exact (h a).refuses u hdefective ha

/-! ### Records -/

theorem hasMembers_unique {t : Tree} {members members' : List (String × Tree)}
    (h : t.HasMembers members) (h' : t.HasMembers members') : members = members' := by
  obtain ⟨written, rfl, hwritten⟩ := h
  obtain ⟨_, ⟨⟩, hwritten'⟩ := h'
  induction hwritten generalizing members' with
  | nil => exact (List.forall₂_nil_left_iff.mp hwritten').symm
  | @cons w m written members hm _ ih =>
    obtain ⟨m', members', hm', hmembers', rfl⟩ := List.forall₂_cons_left_iff.mp hwritten'
    have hkey : m.1 = m'.1 := Option.some.inj (hm.1.symm.trans hm'.1)
    have hvalue : m.2 = m'.2 := hm.2.symm.trans hm'.2
    rw [Prod.ext hkey hvalue, ih hmembers']

theorem not_array_of_hasMembers {t : Tree} {members : List (String × Tree)}
    (h : t.HasMembers members) {items : List Tree} {closed : Bool} : t ≠ .array items closed := by
  obtain ⟨written, rfl, -⟩ := h
  exact Tree.noConfusion

/-- An object holds the fields if each declared key occurs once and its value holds
the field. -/
theorem holdsRecord_iff_of_hasMembers {t : Tree} {members : List (String × Tree)}
    (h : t.HasMembers members) (fields : List (String × (Tree → Prop))) :
    HoldsRecord fields t ↔ ∀ field ∈ fields, ∃ v,
      membersNamed field.1 members = [(field.1, v)] ∧ field.2 v := by
  constructor
  · rintro (⟨members', h', hfields⟩ | ⟨items, hitems, -⟩)
    · rw [hasMembers_unique h h']
      exact hfields
    · exact absurd hitems (not_array_of_hasMembers h)
  · intro hfields
    exact .inl ⟨members, h, hfields⟩

theorem holdsRecord_array (fields : List (String × (Tree → Prop))) (items : List Tree) :
    HoldsRecord fields (.array items true) ↔
      List.Forall₂ (fun field v => field.2 v) fields items := by
  constructor
  · rintro (⟨members, h, -⟩ | ⟨_, ⟨⟩, h⟩)
    · exact absurd rfl (not_array_of_hasMembers h)
    · exact h
  · intro h
    exact .inr ⟨items, rfl, h⟩

/-- The keys are those of the shapes, and each field respects its shape. -/
abbrev RespectAll (shapes : List (String × Shape)) (fields : List (String × (Tree → Prop))) :
    Prop :=
  List.Forall₂ (fun s field => s.1 = field.1 ∧ s.2.Respects field.2) shapes fields

section Fields

variable {key : String} {holds : Tree → Prop} {shapes : List (String × Shape)}
  {fields : List (String × (Tree → Prop))}

theorem respectAll_cons {s : Shape} (hs : s.Respects holds) (h : RespectAll shapes fields) :
    RespectAll ((key, s) :: shapes) ((key, holds) :: fields) :=
  .cons ⟨rfl, hs⟩ h

theorem respectAll_value (h : RespectAll shapes fields) :
    RespectAll ((key, value) :: shapes) ((key, holds) :: fields) :=
  respectAll_cons (respects_value holds) h

end Fields

/-- If a key occurs once, it does so in an alike object. -/
theorem membersNamed_of_forall₂ {r : Tree → Tree → Prop} {key : String}
    {members members' : List (String × Tree)}
    (h : List.Forall₂ (fun m m' => r m.2 m'.2) (membersNamed key members)
      (membersNamed key members')) {v : Tree} (hv : membersNamed key members = [(key, v)]) :
    ∃ v', membersNamed key members' = [(key, v')] ∧ r v v' := by
  rw [hv] at h
  obtain ⟨m, ms, hm, hms, hmembers⟩ := List.forall₂_cons_left_iff.mp h
  rw [List.forall₂_nil_left_iff.mp hms] at hmembers
  have hkey : m.1 = key := key_of_mem_membersNamed (by rw [hmembers]; exact List.mem_cons_self)
  exact ⟨m.2, by rw [hmembers, ← hkey], hm⟩

theorem Respects.member {shape : Shape} {holds : Tree → Prop} (h : shape.Respects holds)
    {key : String} {members members' : List (String × Tree)}
    (halike : List.Forall₂ (fun m m' => shape.alike m.2 m'.2) (membersNamed key members)
      (membersNamed key members')) :
    (∃ v, membersNamed key members = [(key, v)] ∧ holds v) ↔
      ∃ v, membersNamed key members' = [(key, v)] ∧ holds v := by
  constructor
  · rintro ⟨v, hv, hholds⟩
    obtain ⟨v', hv', hvv'⟩ := membersNamed_of_forall₂ halike hv
    exact ⟨v', hv', (h.congr v v' hvv').mp hholds⟩
  · rintro ⟨v', hv', hholds⟩
    obtain ⟨v, hv, hvv'⟩ := membersNamed_of_forall₂ (r := flip shape.alike) halike.flip hv'
    exact ⟨v, hv, (h.congr v v' hvv').mpr hholds⟩

theorem forall₂_congr_pairs {shapes : List (String × Shape)}
    {fields : List (String × (Tree → Prop))} (h : RespectAll shapes fields)
    {pairs : List (Tree × Tree)}
    (halike : List.Forall₂ (fun s p => s.2.alike p.1 p.2) shapes pairs) :
    List.Forall₂ (fun field v => field.2 v) fields (pairs.map Prod.fst) ↔
      List.Forall₂ (fun field v => field.2 v) fields (pairs.map Prod.snd) := by
  induction h generalizing pairs with
  | nil =>
    rw [List.forall₂_nil_left_iff.mp halike]
    exact Iff.rfl
  | cons hs _ ih =>
    obtain ⟨p, ps, hp, hps, rfl⟩ := List.forall₂_cons_left_iff.mp halike
    rw [List.map_cons, List.map_cons, List.forall₂_cons, List.forall₂_cons, ih hps,
      hs.2.congr _ _ hp]

theorem not_forall₂_of_defective {shapes : List (String × Shape)}
    {fields : List (String × (Tree → Prop))} (h : RespectAll shapes fields) {items : List Tree}
    {p : (String × Shape) × Tree} (hp : p ∈ shapes.zip items) (hdefective : p.1.2.defective p.2) :
    ¬List.Forall₂ (fun field v => field.2 v) fields items := by
  induction h generalizing items with
  | nil => cases hp
  | cons hs _ ih =>
    intro hfields
    obtain ⟨u, us, hu, hus, rfl⟩ := List.forall₂_cons_left_iff.mp hfields
    rcases List.mem_cons.mp hp with rfl | hp
    · exact hs.2.refuses u hdefective hu
    · exact ih hp hus

theorem Respects.record {shapes : List (String × Shape)}
    {fields : List (String × (Tree → Prop))} (h : RespectAll shapes fields) :
    (record shapes).Respects (HoldsRecord fields) where
  congr := by
    rintro t t' (⟨members, members', hmembers, hmembers', halike⟩ | ⟨pairs, rfl, rfl, halike⟩)
    · rw [holdsRecord_iff_of_hasMembers hmembers, holdsRecord_iff_of_hasMembers hmembers']
      refine forall₂_congr fun field hfield => ?_
      obtain ⟨s, hs, hkey, hrespects⟩ := exists_of_forall₂ h hfield
      have hmember := hrespects.member (halike s hs)
      rw [hkey] at hmember
      exact hmember
    · rw [holdsRecord_array, holdsRecord_array, forall₂_congr_pairs h halike]
  refuses := by
    rintro t (⟨members, hmembers, s, hs, hdefective⟩ | ⟨items, rfl, p, hp, hdefective⟩)
    · rw [holdsRecord_iff_of_hasMembers hmembers]
      intro hfields
      obtain ⟨field, hfield, hkey, hrespects⟩ := exists_of_forall₂ h.flip hs
      obtain ⟨v, hv, hholds⟩ := hfields field hfield
      rw [hkey, hv] at hdefective
      rcases hdefective with hlength | ⟨m, hm, hdefective⟩
      · exact hlength rfl
      · rw [List.mem_singleton.mp hm] at hdefective
        exact hrespects.refuses v hdefective hholds
    · rw [holdsRecord_array]
      exact not_forall₂_of_defective h hp hdefective

end Shape

end ExecutionLink.Json
