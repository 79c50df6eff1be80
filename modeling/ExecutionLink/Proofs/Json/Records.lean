/-
What a record is read from.

A reader of an object goes through its members once, keeps what it has read in
slots and looks for missing fields at the end.  What comes of it can be said
without any order:

* `Fields.OfMembers` — each field has its value from the one member with its
  key, or is absent and has a value for that;
* `Fields.OfItems` — the items of an array are the values of the fields in
  their order;
* `Fields.HeldBy` — an object of the first kind, whose other members can be
  skipped, or an array of the second;
* `Fields.decode_eq_ok` — these are exactly what a record is read from.

The induction is on the members, with slots that are filled already
(`Fields.Given`): a member whose key is declared moves from the list into its
slot, and no slot takes two.
-/
import ExecutionLink.Json.Format

namespace ExecutionLink.Json

section Results

variable {ε α β : Type} {x : Except ε α} {b : β}

theorem map_eq_ok {f : α → β} : x.map f = .ok b ↔ ∃ a, x = .ok a ∧ f a = b := by
  cases x <;> simp [Except.map]

theorem mapError_eq_ok {ε' : Type} {f : ε → ε'} {x : Except ε α} {a : α} :
    x.mapError f = .ok a ↔ x = .ok a := by
  cases x with
  | error e => exact ⟨nofun, nofun⟩
  | ok a' =>
    constructor
    · rintro ⟨⟩
      rfl
    · rintro ⟨⟩
      rfl

theorem bind_eq_ok {f : α → Except ε β} : (x >>= f) = .ok b ↔ ∃ a, x = .ok a ∧ f a = .ok b := by
  cases x <;> simp [bind, Except.bind]

end Results

/-- The values that the members of an object have under a key. -/
def Tree.under (name : String) (members : List (StringLiteral × Tree)) : List Tree :=
  members.filterMap fun (key, t) => if text? key = some name then some t else none

namespace Tree

variable {name key : String} {k : StringLiteral} {t : Tree} {members : List (StringLiteral × Tree)}

theorem under_cons_self (h : text? k = some name) :
    under name ((k, t) :: members) = t :: under name members := by
  unfold under
  exact List.filterMap_cons_some (if_pos h)

theorem under_cons_of_ne (h : text? k = some key) (hne : key ≠ name) :
    under name ((k, t) :: members) = under name members := by
  have hother : text? k ≠ some name := by
    rw [h]
    exact fun he => hne (Option.some.inj he)
  unfold under
  exact List.filterMap_cons_none (if_neg hother)

end Tree

namespace Fields

variable {α : Type} {room : Nat}

/-- The keys of the fields. -/
def names : {α : Type} → Fields α → List String
  | _, .nil => []
  | _, .cons name _ _ _ rest => name :: rest.names

/-- The members have texts as keys, and the values of those that are skipped
are complete. -/
def Legible (names : List String) (members : List (StringLiteral × Tree)) : Prop :=
  ∀ m ∈ members, ∃ key, text? m.1 = some key ∧ (key ∈ names ∨ m.2.isComplete)

/-- The values found for a field make it `a`: there is just one, which is read
as `a`, or none and `a` is the field's value then. -/
def Supplied (format : Format α) (room : Nat) (otherwise : Option α) : List Tree → α → Prop
  | [], a => otherwise = some a
  | [t], a => format.decode room t = .ok a
  | _, _ => False

/-- The members of an object give the fields their values. -/
def OfMembers (room : Nat) (members : List (StringLiteral × Tree)) :
    {α : Type} → Fields α → α → Prop
  | _, .nil, _ => True
  | _, .cons name format absent _ rest, (a, as) =>
    Supplied format room absent (Tree.under name members) a ∧ rest.OfMembers room members as

/-- The items of an array are the values of the fields. -/
def OfItems (room : Nat) : {α : Type} → Fields α → List Tree → α → Prop
  | _, .nil, [], _ => True
  | _, .nil, _ :: _, _ => False
  | _, .cons _ _ _ beyond rest, [], (a, as) => beyond = some a ∧ rest.OfItems room [] as
  | _, .cons _ format _ _ rest, t :: ts, (a, as) =>
    format.decode room t = .ok a ∧ rest.OfItems room ts as

/-- The tree is an object or an array of which the fields have their values. -/
def HeldBy (fields : Fields α) (room : Nat) (t : Tree) (a : α) : Prop :=
  (∃ members, t = .object members true ∧ Legible fields.names members ∧
    fields.OfMembers room members a) ∨
  ∃ items, t = .array items true ∧ fields.OfItems room items a

theorem supplied_cons {format : Format α} {otherwise : Option α} {t : Tree} {ts : List Tree}
    {a : α} :
    Supplied format room otherwise (t :: ts) a ↔ ts = [] ∧ format.decode room t = .ok a := by
  cases ts with
  | nil => exact (and_iff_right rfl).symm
  | cons u us => exact iff_of_false id fun h => List.cons_ne_nil u us h.1

theorem supplied_none {format : Format α} {found : List Tree} {a : α} :
    Supplied format room none found a ↔ ∃ t, found = [t] ∧ format.decode room t = .ok a := by
  cases found with
  | nil => simp [Supplied]
  | cons t ts =>
    rw [supplied_cons]
    constructor
    · rintro ⟨rfl, h⟩
      exact ⟨t, rfl, h⟩
    · rintro ⟨_, ⟨⟩, h⟩
      exact ⟨rfl, h⟩

theorem ofItems_nil {items : List Tree} : nil.OfItems room items () ↔ items = [] := by
  cases items <;> simp [OfItems]

/-- Before a field that must be given no array ends. -/
theorem ofItems_cons {β : Type} {name : String} {format : Format α} {absent : Option α}
    {rest : Fields β} {items : List Tree} {a : α} {as : β} :
    (cons name format absent none rest).OfItems room items (a, as) ↔
      ∃ t ts, items = t :: ts ∧ format.decode room t = .ok a ∧ rest.OfItems room ts as := by
  cases items with
  | nil => simp [OfItems]
  | cons u us =>
    rw [OfItems]
    constructor
    · intro h
      exact ⟨u, us, rfl, h⟩
    · rintro ⟨_, _, ⟨⟩, h⟩
      exact h

/-! ### Slots -/

/-- The members give the fields that have not been read yet their values, and
the slots have those of the others. -/
def Given (room : Nat) (members : List (StringLiteral × Tree)) :
    {α : Type} → (fields : Fields α) → fields.Slots → α → Prop
  | _, .nil, _, _ => True
  | _, .cons (α := α) name format absent _ rest, slots, (a, as) =>
    let (slot, others) : Option α × rest.Slots := slots
    (match slot with
      | some b => Tree.under name members = [] ∧ b = a
      | none => Supplied format room absent (Tree.under name members) a) ∧
      rest.Given room members others as

theorem given_unread (fields : Fields α) (members : List (StringLiteral × Tree)) (a : α) :
    fields.Given room members fields.unread a ↔ fields.OfMembers room members a := by
  induction fields with
  | nil => rfl
  | cons name format absent beyond rest ih => exact and_congr Iff.rfl (ih a.2)

/-- Without any more members it is time to look for missing fields. -/
theorem given_nil (fields : Fields α) (slots : fields.Slots) (a : α) :
    fields.Given room [] slots a ↔ fields.finish slots = .ok a := by
  induction fields with
  | nil => exact iff_of_true trivial rfl
  | cons name format absent beyond rest ih =>
    obtain ⟨slot, others⟩ := slots
    obtain ⟨a, as⟩ := a
    -- a filled slot is the value, an empty one is what its absence stands for
    have hrest := ih others as
    cases slot with
    | some b =>
      simp only [Given, finish, Tree.under, List.filterMap_nil, true_and, Option.some_or, hrest]
      cases rest.finish others <;> simp [Except.map]
    | none =>
      simp only [Given, finish, Supplied, Tree.under, List.filterMap_nil, Option.none_or, hrest]
      cases absent with
      | none => simp
      | some b => cases rest.finish others <;> simp [Except.map]

/-- A member whose key is not declared is no field's. -/
theorem fill_eq_none {key : String} {t : Tree} {fields : Fields α} (slots : fields.Slots) :
    fields.fill room key t slots = none ↔ key ∉ fields.names := by
  induction fields with
  | nil => simp [fill, names]
  | cons name format absent beyond rest ih =>
    obtain ⟨slot, others⟩ := slots
    by_cases hkey : key = name
    · subst hkey
      cases slot <;> simp [fill, names]
    · simp [fill, names, hkey, ih]

section Members

variable {key : String} {k : StringLiteral} {t : Tree} {members : List (StringLiteral × Tree)}
  {fields : Fields α}

theorem given_cons_of_notMem (hk : text? k = some key) (hkey : key ∉ fields.names)
    (slots : fields.Slots) (a : α) :
    fields.Given room ((k, t) :: members) slots a ↔ fields.Given room members slots a := by
  induction fields with
  | nil => rfl
  | cons name format absent beyond rest ih =>
    rw [names, List.mem_cons, not_or] at hkey
    obtain ⟨slot, others⟩ := slots
    simp only [Given]
    rw [Tree.under_cons_of_ne hk hkey.1, ih hkey.2]

/-- A member whose key is declared goes into the slot of its field, which must
be free. -/
theorem given_cons_of_mem (hk : text? k = some key) (hnodup : fields.names.Nodup)
    (hkey : key ∈ fields.names) (slots : fields.Slots) (a : α) :
    fields.Given room ((k, t) :: members) slots a ↔
      ∃ slots', fields.fill room key t slots = some (.ok slots') ∧
        fields.Given room members slots' a := by
  induction fields with
  | nil => exact absurd hkey List.not_mem_nil
  | cons name format absent beyond rest ih =>
    rw [names, List.nodup_cons] at hnodup
    rw [names, List.mem_cons] at hkey
    obtain ⟨slot, others⟩ := slots
    obtain ⟨a, as⟩ := a
    by_cases heq : key = name
    · -- The field of this name; the other fields do not see the member.
      subst heq
      have hrest : rest.Given room ((k, t) :: members) others as ↔
          rest.Given room members others as := given_cons_of_notMem hk hnodup.1 others as
      simp only [Given, fill, if_true, hrest, Tree.under_cons_self hk]
      cases slot with
      | some b => simp
      | none =>
        rw [supplied_cons]
        cases hdecode : format.decode room t with
        | error e => simp [Except.map]
        | ok b =>
          constructor
          · rintro ⟨⟨hunder, hb⟩, h⟩
            exact ⟨(some b, others), rfl, ⟨hunder, Except.ok.inj hb⟩, h⟩
          · rintro ⟨slots', hslots, h⟩
            cases hslots
            exact ⟨⟨h.1.1, congrArg Except.ok h.1.2⟩, h.2⟩
    · have hmem : key ∈ rest.names := hkey.resolve_left heq
      simp only [Given, ih hnodup.2 hmem others as, Tree.under_cons_of_ne hk heq, fill,
        if_neg heq]
      constructor
      · rintro ⟨hslot, others', hfill, h⟩
        exact ⟨(slot, others'), by rw [hfill]; rfl, hslot, h⟩
      · rintro ⟨slots', hfill, h⟩
        obtain ⟨r, hr, hslots⟩ := Option.map_eq_some_iff.mp hfill
        cases r with
        | error e => cases hslots
        | ok others' =>
          cases hslots
          exact ⟨h.1, others', hr, h.2⟩

end Members

/-! ### Objects and arrays -/

/-- Reading the members one after another and looking for missing fields then
comes to the same as looking up each field. -/
theorem fillAll_finish_eq_ok {fields : Fields α} (hnodup : fields.names.Nodup)
    (members : List (StringLiteral × Tree)) (slots : fields.Slots) (a : α) :
    (∃ slots', fields.fillAll room members slots = .ok slots' ∧ fields.finish slots' = .ok a) ↔
      Legible fields.names members ∧ fields.Given room members slots a := by
  induction members generalizing slots with
  | nil =>
    rw [given_nil]
    simp [fillAll, Legible]
  | cons m members ih =>
    obtain ⟨k, t⟩ := m
    have hlegible : Legible fields.names ((k, t) :: members) ↔
        (∃ key, text? k = some key ∧ (key ∈ fields.names ∨ t.isComplete)) ∧
          Legible fields.names members := List.forall_mem_cons
    rw [hlegible]
    cases hk : text? k with
    | none => simp [fillAll, hk]
    | some key =>
      by_cases hkey : key ∈ fields.names
      · -- A declared key: the slots take the value, or reading ends here.
        rw [given_cons_of_mem hk hnodup hkey]
        cases hfill : fields.fill room key t slots with
        | none => exact absurd hkey ((fill_eq_none slots).mp hfill)
        | some r =>
          cases r with
          | error e => simp [fillAll, hk, hfill]
          | ok slots₁ => simp [fillAll, hk, hfill, ih, hkey]
      · have hfill : fields.fill room key t slots = none := (fill_eq_none slots).mpr hkey
        rw [given_cons_of_notMem hk hkey]
        by_cases hcomplete : t.isComplete
        · simp [fillAll, hk, hfill, hcomplete, ih]
        · simp [fillAll, hk, hfill, hcomplete, hkey]

theorem decodeItems_eq_ok {fields : Fields α} {short long : Fault} {closed : Bool}
    {items : List Tree} {a : α} :
    fields.decodeItems room short long closed items = .ok a ↔
      closed ∧ fields.OfItems room items a := by
  induction fields generalizing items with
  | nil =>
    cases items with
    | nil => cases closed <;> simp [decodeItems, OfItems]
    | cons t ts => simp [decodeItems, OfItems]
  | cons name format absent beyond rest ih =>
    obtain ⟨a, as⟩ := a
    cases items with
    | nil =>
      simp only [decodeItems, OfItems]
      cases closed with
      | false => simp
      | true =>
        cases beyond with
        | none => simp
        | some b =>
          simp only [if_true, map_eq_ok, ih, Prod.mk.injEq, Option.some.injEq, true_and]
          constructor
          · rintro ⟨as', h, rfl, rfl⟩
            exact ⟨rfl, h⟩
          · rintro ⟨rfl, h⟩
            exact ⟨as, h, rfl, rfl⟩
    | cons t ts =>
      simp only [decodeItems, OfItems, bind_eq_ok, ih]
      constructor
      · rintro ⟨a', ha, as', ⟨hclosed, h⟩, heq⟩
        cases heq
        exact ⟨hclosed, ha, h⟩
      · rintro ⟨hclosed, ha, h⟩
        exact ⟨a, ha, as, ⟨hclosed, h⟩, rfl⟩

/-- A record is read from an object whose members are legible and give each
field its value, or from an array of the values in their order. -/
theorem decode_eq_ok {fields : Fields α} (hnodup : fields.names.Nodup) {name : String} {t : Tree}
    {a : α} : fields.decode name (room + 1) t = .ok a ↔ fields.HeldBy room t a := by
  unfold HeldBy
  cases t with
  | array items closed =>
    simp only [decode, decodeItems_eq_ok]
    constructor
    · rintro ⟨rfl, h⟩
      exact .inr ⟨items, rfl, h⟩
    · rintro (⟨_, ⟨⟩, _⟩ | ⟨_, ⟨⟩, h⟩)
      exact ⟨rfl, h⟩
  | object members closed =>
    have hall : (∃ slots, fields.fillAll room members fields.unread = .ok slots ∧
        fields.finish slots = .ok a) ↔
          Legible fields.names members ∧ fields.OfMembers room members a := by
      rw [fillAll_finish_eq_ok hnodup, given_unread]
    simp only [decode, bind_eq_ok]
    constructor
    · rintro ⟨slots, hfill, hfinish⟩
      cases closed with
      | false => cases hfinish
      | true => exact .inl ⟨members, rfl, hall.mp ⟨slots, hfill, hfinish⟩⟩
    · rintro (⟨_, ⟨⟩, h⟩ | ⟨_, ⟨⟩, _⟩)
      obtain ⟨slots, hfill, hfinish⟩ := hall.mpr h
      exact ⟨slots, hfill, hfinish⟩
  | _ => simp [decode]

end Fields

namespace Format

theorem decode_record_eq_ok {α β : Type} {name : String} {fields : Fields β} {toFields : α → β}
    {ofFields : β → α} (hnodup : fields.names.Nodup) {room : Nat} {t : Tree} {a : α} :
    (record name fields toFields ofFields).decode (room + 1) t = .ok a ↔
      ∃ b, fields.HeldBy room t b ∧ ofFields b = a := by
  show (fields.decode name (room + 1) t).map ofFields = .ok a ↔ _
  simp only [map_eq_ok, Fields.decode_eq_ok hnodup]

/-- If a record and the tuple of its fields stand for each other, it is read from what
holds its fields. -/
theorem decode_record_eq_ok_iff_heldBy {α β : Type} {name : String} {fields : Fields β}
    {toFields : α → β} {ofFields : β → α} (hnodup : fields.names.Nodup)
    (hof : ∀ a, ofFields (toFields a) = a) (hto : ∀ b, toFields (ofFields b) = b) {room : Nat}
    {t : Tree} {a : α} :
    (record name fields toFields ofFields).decode (room + 1) t = .ok a ↔
      fields.HeldBy room t (toFields a) := by
  rw [decode_record_eq_ok hnodup]
  constructor
  · rintro ⟨b, hb, rfl⟩
    rw [hto]
    exact hb
  · intro h
    exact ⟨toFields a, h, hof a⟩

/-- A text holds a value if it is a complete document whose tree does. -/
theorem read_eq_ok {α : Type} {f : Format α} {s : String} {a : α} :
    f.read s = .ok a ↔
      (Document.ofText s).complete ∧ f.decode documentRoom (Document.ofText s).tree = .ok a := by
  unfold read readDocument
  simp only [bind_eq_ok, mapError_eq_ok]
  cases (Document.ofText s).complete with
  | false => simp
  | true =>
    constructor
    · rintro ⟨a', h, ⟨⟩⟩
      exact ⟨rfl, h⟩
    · rintro ⟨-, h⟩
      exact ⟨a, h, rfl⟩

end Format

end ExecutionLink.Json
