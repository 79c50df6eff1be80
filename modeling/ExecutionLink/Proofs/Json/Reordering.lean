/-
Members in another order.

The members of an object may come in any order, in the document and at every place
inside it.  A change of order is made one object at a time:

* `Tree.Reordered` — one object somewhere in the tree has its members in another
  order.
* `Tree.Reordered.value?` — the other tree has a value if the one has, and it is a
  container of the same kind.  The value can be another one, since of members with
  the same key the last counts.
* `AlikeFound`, `Tree.Reordered.object`, `Tree.Reordered.array` — what is found under
  a key, or at a place, is the same up to such a change.
* `isOptional_reordered` — so is a value that may be missing.
* `holdsRecord_reordered`, `holdsRecord_undeclared` — a record is held in any order of
  its members, and whatever other members there are.
-/
import ExecutionLink.Proofs.Json.Shape

namespace ExecutionLink.Json

/-- The trees differ in the order of the members of one object. -/
inductive Tree.Reordered : Tree → Tree → Prop
  | here {members members' : List (StringLiteral × Tree)} {closed : Bool}
      (h : members.Perm members') : Reordered (.object members closed) (.object members' closed)
  | item {before after : List Tree} {t t' : Tree} {closed : Bool} (h : Reordered t t') :
      Reordered (.array (before ++ t :: after) closed) (.array (before ++ t' :: after) closed)
  | member {before after : List (StringLiteral × Tree)} {key : StringLiteral} {t t' : Tree}
      {closed : Bool} (h : Reordered t t') :
      Reordered (.object (before ++ (key, t) :: after) closed)
        (.object (before ++ (key, t') :: after) closed)

/-- The same value, or two arrays or two objects. -/
inductive Value.SameKind : Value → Value → Prop
  | refl (v : Value) : SameKind v v
  | array (items items' : List Value) : SameKind (.array items) (.array items')
  | object (members members' : List (String × Value)) :
      SameKind (.object members) (.object members')

namespace Tree

/-! ### Which trees have a value -/

section Readable

variable {room : Nat}

theorem exists_values? {items : List Tree} :
    (∃ vs, values? room items = some vs) ↔ ∀ t ∈ items, ∃ v, t.value? room = some v := by
  induction items with
  | nil => exact iff_of_true ⟨[], rfl⟩ (List.forall_mem_nil _)
  | cons t items ih =>
    rw [List.forall_mem_cons, ← ih]
    simp only [values?, Option.bind_eq_bind, Option.bind_eq_some_iff, Option.pure_def,
      Option.some.injEq]
    constructor
    · rintro ⟨_, v, hv, vs, hvs, -⟩
      exact ⟨⟨v, hv⟩, vs, hvs⟩
    · rintro ⟨⟨v, hv⟩, vs, hvs⟩
      exact ⟨v :: vs, v, hv, vs, hvs, rfl⟩

theorem exists_memberValues? {members : List (StringLiteral × Tree)} :
    (∃ vs, memberValues? room members = some vs) ↔
      ∀ m ∈ members, (∃ key, text? m.1 = some key) ∧ ∃ v, m.2.value? room = some v := by
  induction members with
  | nil => exact iff_of_true ⟨[], rfl⟩ (List.forall_mem_nil _)
  | cons m members ih =>
    rw [List.forall_mem_cons, ← ih]
    simp only [memberValues?, Option.bind_eq_bind, Option.bind_eq_some_iff, Option.pure_def,
      Option.some.injEq]
    constructor
    · rintro ⟨_, key, hkey, v, hv, vs, hvs, -⟩
      exact ⟨⟨⟨key, hkey⟩, v, hv⟩, vs, hvs⟩
    · rintro ⟨⟨⟨key, hkey⟩, v, hv⟩, vs, hvs⟩
      exact ⟨(key, v) :: vs, key, hkey, v, hv, vs, hvs, rfl⟩

theorem value?_array_eq_some {items : List Tree} {closed : Bool} {v : Value} :
    (array items closed).value? room = some v ↔
      ∃ inside vs, room = inside + 1 ∧ closed ∧ values? inside items = some vs ∧ .array vs = v := by
  cases room with
  | zero => simp [value?]
  | succ room => cases closed <;> simp [value?]

theorem value?_object_eq_some {members : List (StringLiteral × Tree)} {closed : Bool} {v : Value} :
    (object members closed).value? room = some v ↔
      ∃ inside vs, room = inside + 1 ∧ closed ∧ memberValues? inside members = some vs ∧
        .object (Value.sortMembers vs) = v := by
  cases room with
  | zero => simp [value?]
  | succ room => cases closed <;> simp [value?]

end Readable

namespace Reordered

variable {t t' : Tree}

theorem symm (h : Reordered t t') : Reordered t' t := by
  induction h with
  | here h => exact .here h.symm
  | item _ ih => exact .item ih
  | member _ ih => exact .member ih

theorem ne_null (h : Reordered t t') : t ≠ .null := by
  cases h <;> exact Tree.noConfusion

/-- A tree with a value has one in any order of its members. -/
theorem value? (h : Reordered t t') {room : Nat} {v : Value} (hv : t.value? room = some v) :
    ∃ v', t'.value? room = some v' ∧ v.SameKind v' := by
  -- on the way to the object whose order changes only one item or member is another
  induction h generalizing room v with
  | @here members members' closed h =>
    obtain ⟨inside, vs, rfl, hclosed, hvs, rfl⟩ := value?_object_eq_some.mp hv
    have hvalues := exists_memberValues?.mp ⟨vs, hvs⟩
    obtain ⟨vs', hvs'⟩ :=
      exists_memberValues?.mpr fun m hm => hvalues m (h.mem_iff.mpr hm)
    exact ⟨_, value?_object_eq_some.mpr ⟨inside, vs', rfl, hclosed, hvs', rfl⟩, .object _ _⟩
  | @item before after t t' _ _ ih =>
    obtain ⟨inside, vs, rfl, hclosed, hvs, rfl⟩ := value?_array_eq_some.mp hv
    have hvalues := exists_values?.mp ⟨vs, hvs⟩
    rw [List.forall_mem_append, List.forall_mem_cons] at hvalues
    obtain ⟨hbefore, ⟨w, hw⟩, hafter⟩ := hvalues
    obtain ⟨w', hw', -⟩ := ih hw
    obtain ⟨vs', hvs'⟩ : ∃ vs', values? inside (before ++ t' :: after) = some vs' := by
      rw [exists_values?, List.forall_mem_append, List.forall_mem_cons]
      exact ⟨hbefore, ⟨w', hw'⟩, hafter⟩
    exact ⟨_, value?_array_eq_some.mpr ⟨inside, vs', rfl, hclosed, hvs', rfl⟩, .array _ _⟩
  | @member before after key t t' _ _ ih =>
    obtain ⟨inside, vs, rfl, hclosed, hvs, rfl⟩ := value?_object_eq_some.mp hv
    have hvalues := exists_memberValues?.mp ⟨vs, hvs⟩
    rw [List.forall_mem_append, List.forall_mem_cons] at hvalues
    obtain ⟨hbefore, ⟨hkey, w, hw⟩, hafter⟩ := hvalues
    obtain ⟨w', hw', -⟩ := ih hw
    obtain ⟨vs', hvs'⟩ : ∃ vs', memberValues? inside (before ++ (key, t') :: after) = some vs' := by
      rw [exists_memberValues?, List.forall_mem_append, List.forall_mem_cons]
      exact ⟨hbefore, ⟨hkey, w', hw'⟩, hafter⟩
    exact ⟨_, value?_object_eq_some.mpr ⟨inside, vs', rfl, hclosed, hvs', rfl⟩, .object _ _⟩

end Reordered

/-! ### What is found -/

theorem under_append (name : String) (members members' : List (StringLiteral × Tree)) :
    under name (members ++ members') = under name members ++ under name members' :=
  List.filterMap_append

theorem under_perm {members members' : List (StringLiteral × Tree)} (h : members.Perm members')
    (name : String) : (under name members).Perm (under name members') :=
  h.filterMap _

end Tree

/-- The same is found in another order, or one of the trees found is reordered. -/
inductive AlikeFound : List Tree → List Tree → Prop
  | perm {found found' : List Tree} (h : found.Perm found') : AlikeFound found found'
  | replace {before after : List Tree} {t t' : Tree} (h : t.Reordered t') :
      AlikeFound (before ++ t :: after) (before ++ t' :: after)

namespace AlikeFound

variable {found found' : List Tree}

theorem eq_nil (h : AlikeFound found found') (hnone : found = []) : found' = [] := by
  cases h with
  | perm h => exact (hnone ▸ h).nil_eq.symm
  | replace h => simp at hnone

theorem eq_singleton (h : AlikeFound found found') {t : Tree} (hone : found = [t]) :
    ∃ t', found' = [t'] ∧ (t' = t ∨ t.Reordered t') := by
  cases h with
  | perm h => exact ⟨t, (hone ▸ h).symm.eq_singleton, .inl rfl⟩
  | @replace before after u u' h =>
    obtain ⟨rfl, rfl, rfl⟩ : before = [] ∧ u = t ∧ after = [] := by
      simpa [List.append_eq_singleton_iff] using hone
    exact ⟨u', rfl, .inr h⟩

end AlikeFound

theorem legibleKeys_cons {written : List (StringLiteral × Tree)} {k : StringLiteral} {key : String}
    {t : Tree} (hk : text? k = some key) :
    LegibleKeys ((k, t) :: written) ↔ LegibleKeys written := by
  unfold LegibleKeys
  rw [List.forall_mem_cons]
  exact and_iff_right ⟨key, hk⟩

/-- Only the keys matter. -/
theorem legibleKeys_replace {before after : List (StringLiteral × Tree)} {k : StringLiteral}
    {t t' : Tree} :
    LegibleKeys (before ++ (k, t) :: after) ↔ LegibleKeys (before ++ (k, t') :: after) := by
  unfold LegibleKeys
  simp only [List.forall_mem_append, List.forall_mem_cons]

/-- What becomes of an object when it is reordered. -/
theorem Tree.Reordered.object {written : List (StringLiteral × Tree)} {closed : Bool} {t : Tree}
    (h : (Tree.object written closed).Reordered t) :
    ∃ written', t = .object written' closed ∧ (LegibleKeys written → LegibleKeys written') ∧
      ∀ name, AlikeFound (under name written) (under name written') := by
  cases h with
  | @here _ written' _ h =>
    exact ⟨written', rfl, fun hkeys w hw => hkeys w (h.mem_iff.mpr hw),
      fun name => .perm (under_perm h name)⟩
  | @member before after key u u' _ h =>
    refine ⟨_, rfl, legibleKeys_replace.mp, fun name => ?_⟩
    rw [under_append, under_append]
    by_cases hkey : text? key = some name
    · rw [under_cons_self hkey, under_cons_self hkey]
      exact .replace h
    · have hskip : ∀ v, under name ((key, v) :: after) = under name after :=
        fun v => List.filterMap_cons_none (if_neg hkey)
      rw [hskip, hskip]
      exact .perm (List.Perm.refl _)

/-- What becomes of an array with regard to its first item and the others. -/
theorem Tree.Reordered.array {items : List Tree} {closed : Bool} {t : Tree}
    (h : (Tree.array items closed).Reordered t) :
    ∃ items', t = .array items' closed ∧ AlikeFound (items.take 1) (items'.take 1) ∧
      AlikeFound (items.drop 1) (items'.drop 1) := by
  cases h with
  | @item before after u u' _ h =>
    refine ⟨_, rfl, ?_⟩
    cases before with
    | nil =>
      have hfirst : AlikeFound ([] ++ u :: []) ([] ++ u' :: []) := .replace h
      exact ⟨hfirst, .perm (List.Perm.refl after)⟩
    | cons first before =>
      have hothers : AlikeFound (before ++ u :: after) (before ++ u' :: after) := .replace h
      exact ⟨.perm (List.Perm.refl [first]), hothers⟩

/-! ### Optional values -/

section Optional

variable {α : Type} {holds : α → Tree → Prop} {o : Option α}

theorem isOptional_replace {t t' : Tree} (hnull : t ≠ .null) (hnull' : t' ≠ .null)
    (h : ∀ a, holds a t ↔ holds a t') {before after : List Tree} :
    IsOptional holds o (before ++ t :: after) ↔ IsOptional holds o (before ++ t' :: after) := by
  cases o <;> simp [IsOptional, List.append_eq_singleton_iff, hnull, hnull', h]

theorem isOptional_reordered {alike : α → α → Prop} (hrefl : ∀ a, alike a a)
    (hholds : ∀ {a t t'}, t.Reordered t' → holds a t → ∃ a', holds a' t' ∧ alike a a')
    {found found' : List Tree} (h : AlikeFound found found') (ho : IsOptional holds o found) :
    ∃ o', IsOptional holds o' found' ∧ Option.Rel alike o o' := by
  cases o with
  | none =>
    refine ⟨none, ?_, .none⟩
    obtain hnone | hnull := ho
    · exact .inl (h.eq_nil hnone)
    · obtain ⟨t', hfound, rfl | hreordered⟩ := h.eq_singleton hnull
      · exact .inr hfound
      · exact absurd rfl hreordered.ne_null
  | some a =>
    obtain ⟨t, ht, hnull, ha⟩ := ho
    obtain ⟨t', hfound, rfl | hreordered⟩ := h.eq_singleton ht
    · exact ⟨some a, ⟨t', hfound, hnull, ha⟩, .some (hrefl a)⟩
    · obtain ⟨a', ha', halike⟩ := hholds hreordered ha
      exact ⟨some a', ⟨t', hfound, hreordered.symm.ne_null, ha'⟩, .some halike⟩

end Optional

/-! ### Records -/

theorem holdsRecord_object {fields : List (String × (Tree → Prop))}
    {written : List (StringLiteral × Tree)} :
    HoldsRecord fields (.object written true) ↔
      LegibleKeys written ∧
        ∀ field ∈ fields, ∃ v, Tree.under field.1 written = [v] ∧ field.2 v := by
  constructor
  · rintro (⟨members, ⟨_, ⟨⟩, hwritten⟩, hfields⟩ | ⟨_, ⟨⟩, _⟩)
    refine ⟨forall₂_texts_iff.mpr ⟨members, hwritten⟩, fun field hfield => ?_⟩
    obtain ⟨v, hv, hholds⟩ := hfields field hfield
    refine ⟨v, ?_, hholds⟩
    rw [under_eq_map hwritten, map_membersNamed_eq_singleton]
    exact hv
  · rintro ⟨hkeys, hfields⟩
    obtain ⟨members, hwritten⟩ := forall₂_texts_iff.mp hkeys
    refine .inl ⟨members, ⟨written, rfl, hwritten⟩, fun field hfield => ?_⟩
    obtain ⟨v, hv, hholds⟩ := hfields field hfield
    rw [under_eq_map hwritten, map_membersNamed_eq_singleton] at hv
    exact ⟨v, hv, hholds⟩

section Records

variable {fields : List (String × (Tree → Prop))} {t t' : Tree}

/-- Containers hold no field of the record, so only the order of its own members can
be another. -/
theorem holdsRecord_reordered
    (hfields : ∀ field ∈ fields, ∀ u u', field.2 u → ¬Tree.Reordered u u') (h : t.Reordered t')
    (hholds : HoldsRecord fields t) : HoldsRecord fields t' := by
  cases t with
  | object written closed =>
    obtain ⟨written', rfl, hkeys', hfound⟩ := h.object
    cases closed with
    | false => obtain ⟨_, ⟨_, ⟨⟩, _⟩, _⟩ | ⟨_, ⟨⟩, _⟩ := hholds
    | true =>
      obtain ⟨hkeys, hholds⟩ := holdsRecord_object.mp hholds
      refine holdsRecord_object.mpr ⟨hkeys' hkeys, fun field hfield => ?_⟩
      obtain ⟨v, hv, hv'⟩ := hholds field hfield
      obtain ⟨v', hunder, rfl | hreordered⟩ := (hfound field.1).eq_singleton hv
      · exact ⟨v', hunder, hv'⟩
      · exact absurd hreordered (hfields field hfield v v' hv')
  | array items closed =>
    obtain ⟨_, ⟨_, ⟨⟩, _⟩, _⟩ | ⟨_, ⟨⟩, hitems⟩ := hholds
    -- one item would be reordered, and it is the value of a field
    obtain ⟨u, u', hu, hreordered⟩ : ∃ u u', u ∈ items ∧ u.Reordered u' := by
      cases h with
      | @item before after u u' _ h =>
        exact ⟨u, u', List.mem_append_right _ List.mem_cons_self, h⟩
    obtain ⟨field, hfield, hv⟩ := Shape.exists_of_forall₂ hitems hu
    exact absurd hreordered (hfields field hfield u u' hv)
  | _ => cases h

/-- A member with another key is of no matter. -/
theorem holdsRecord_undeclared {written : List (StringLiteral × Tree)} {k : StringLiteral}
    {key : String} (hk : text? k = some key) (hkey : key ∉ fields.map Prod.fst) :
    HoldsRecord fields (.object ((k, t) :: written) true) ↔
      HoldsRecord fields (.object written true) := by
  rw [holdsRecord_object, holdsRecord_object, legibleKeys_cons hk]
  refine and_congr_right fun _ => forall₂_congr fun field hfield => ?_
  have hne : key ≠ field.1 := by
    rintro rfl
    exact hkey (List.mem_map_of_mem hfield)
  rw [Tree.under_cons_of_ne hk hne]

end Records

end ExecutionLink.Json
