/-
Formats that read back what they write.

* `Format.Faithful` — a format reads the tree of what it makes of a value as the
  value.
* `Format.Faithful.list`, `Format.Faithful.record` — lists and records do so if
  their items and fields do, with one container more.
* `Format.Lossless` — the text of a value is read as the value, so different
  values have different texts; `Format.Faithful.lossless` says that this follows.
-/
import ExecutionLink.Proofs.Json.Formats
import ExecutionLink.Proofs.Json.Written
import ExecutionLink.Proofs.Text.Natural

namespace ExecutionLink.Json

/-- The format reads what it makes of a value as the value, if `depth` more
containers may be opened. -/
def Format.Faithful {α : Type} (f : Format α) (depth : Nat) : Prop :=
  ∀ a room, depth ≤ room → f.decode room (f.encode a).tree = .ok a

/-- All fields have such formats. -/
def Fields.Faithful : {α : Type} → Fields α → Nat → Prop
  | _, .nil, _ => True
  | _, .cons _ format _ _ rest, depth => format.Faithful depth ∧ rest.Faithful depth

/-! ### Members of a written record -/

namespace Fields

variable {α : Type} {room : Nat}

theorem ofMembers_cons_of_notMem {key : String} {k : StringLiteral} {t : Tree}
    {members : List (StringLiteral × Tree)} {fields : Fields α} (hk : text? k = some key)
    (hkey : key ∉ fields.names) (a : α) :
    fields.OfMembers room ((k, t) :: members) a ↔ fields.OfMembers room members a := by
  rw [← given_unread, ← given_unread]
  exact given_cons_of_notMem hk hkey fields.unread a

theorem under_encode_eq_nil {name : String} {fields : Fields α} (hname : name ∉ fields.names)
    (a : α) : Tree.under name (Value.membersTrees (fields.encode a)) = [] := by
  induction fields with
  | nil => rfl
  | cons first format absent beyond rest ih =>
    obtain ⟨a, as⟩ := a
    rw [names, List.mem_cons, not_or] at hname
    rw [encode, Value.membersTrees,
      Tree.under_cons_of_ne (text?_literal first) (Ne.symm hname.1), ih hname.2]

theorem legible_encode (fields : Fields α) (a : α) :
    Legible fields.names (Value.membersTrees (fields.encode a)) := by
  induction fields with
  | nil => exact List.forall_mem_nil _
  | cons name format absent beyond rest ih =>
    obtain ⟨a, as⟩ := a
    rw [encode, Value.membersTrees]
    refine List.forall_mem_cons.mpr ⟨⟨name, text?_literal name, .inl List.mem_cons_self⟩, ?_⟩
    intro m hm
    obtain ⟨key, hkey, h⟩ := ih as m hm
    exact ⟨key, hkey, h.imp_left (List.mem_cons_of_mem name)⟩

theorem ofMembers_encode {fields : Fields α} {depth : Nat} (hfaithful : fields.Faithful depth)
    (hnodup : fields.names.Nodup) (hroom : depth ≤ room) (a : α) :
    fields.OfMembers room (Value.membersTrees (fields.encode a)) a := by
  induction fields with
  | nil => trivial
  | cons name format absent beyond rest ih =>
    obtain ⟨a, as⟩ := a
    obtain ⟨hname, hrest⟩ := List.nodup_cons.mp hnodup
    rw [encode, Value.membersTrees]
    -- The first member is the only one for its field, and no other field sees it.
    constructor
    · rw [Tree.under_cons_self (text?_literal name), under_encode_eq_nil hname]
      exact hfaithful.1 a room hroom
    · exact (ofMembers_cons_of_notMem (text?_literal name) hname as).mpr (ih hfaithful.2 hrest as)

end Fields

/-! ### Formats -/

namespace Format

variable {α : Type} {f : Format α} {depth : Nat}

theorem faithful_text : text.Faithful depth := by
  intro s room _
  exact decodeText_eq_ok.mpr ⟨_, rfl, text?_literal s⟩

theorem faithful_bytes {n : Nat} : (bytes n).Faithful depth := by
  intro b room _
  have htext : decodeText (.string (Value.literal b.hex)) = .ok b.hex :=
    decodeText_eq_ok.mpr ⟨_, rfl, text?_literal b.hex⟩
  refine bind_eq_ok.mpr ⟨b.hex, htext, ?_⟩
  rw [FixedBytes.parse_hex]
  rfl

theorem faithful_quotedInteger : quotedInteger.Faithful depth := by
  intro n room _
  have hvalue : Tree.value? room (.string (Value.literal (Text.Natural.render n))) =
      some (.string (Text.Natural.render n)) := by
    rw [Tree.value?, text?_literal]
    rfl
  simp only [quotedInteger, Value.tree, hvalue, Text.Natural.read_render]
  rfl

theorem Faithful.list (hf : f.Faithful depth) : f.list.Faithful (depth + 1) := by
  intro as room hroom
  obtain ⟨room, rfl⟩ : ∃ r, room = r + 1 := ⟨room - 1, by omega⟩
  have hitems : (Value.itemsTrees (as.map f.encode)).mapM (f.decode room) = .ok as := by
    induction as with
    | nil => rfl
    | cons a as ih =>
      rw [List.map_cons, Value.itemsTrees, List.mapM_cons, hf a room (by omega), ih]
      rfl
  exact bind_eq_ok.mpr ⟨as, hitems, rfl⟩

theorem Faithful.record {β : Type} {name : String} {fields : Fields β} {toFields : α → β}
    {ofFields : β → α} (hfields : fields.Faithful depth) (hnodup : fields.names.Nodup)
    (hof : ∀ a, ofFields (toFields a) = a) :
    (record name fields toFields ofFields).Faithful (depth + 1) := by
  intro a room hroom
  obtain ⟨room, rfl⟩ : ∃ r, room = r + 1 := ⟨room - 1, by omega⟩
  refine (decode_record_eq_ok hnodup).mpr ⟨toFields a, .inl ⟨_, rfl, ?_, ?_⟩, hof a⟩
  · exact Fields.legible_encode fields (toFields a)
  · exact Fields.ofMembers_encode hfields hnodup (by omega) (toFields a)

/-! ### Texts -/

/-- The text of a value is read as the value, so different values have different
texts. -/
def Lossless (f : Format α) : Prop :=
  (∀ a, f.read (f.write a) = .ok a) ∧ Function.Injective f.write

theorem Faithful.lossless (hf : f.Faithful depth) (hdepth : depth ≤ documentRoom) :
    f.Lossless := by
  have hread (a : α) : f.read (f.write a) = .ok a := by
    rw [read_eq_ok, write, Document.ofText_render]
    exact ⟨rfl, hf a documentRoom hdepth⟩
  refine ⟨hread, fun a b h => ?_⟩
  -- both are what is read from their common text
  have : Except.ok (ε := Fault) a = .ok b := by
    rw [← hread a, h, hread b]
  exact Except.ok.inj this

end Format

end ExecutionLink.Json
