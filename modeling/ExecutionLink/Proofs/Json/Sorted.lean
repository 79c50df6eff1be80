/-
Written values whose members are in the order of their keys.

Sorting reorders the members of an object as long as their keys differ
(`Value.sortMembers_perm`), and what holds a record does not depend on their order.

* `Format.Keeps` — what the format makes of a value holds the value when it has been
  sorted, too; `Format.Keeps.list` and `Format.Keeps.record` carry this over to lists
  and records.
* `Format.Reads.read_sorted` — so the sorted text is read as the value.
-/
import ExecutionLink.Proofs.Json.Grammar
import ExecutionLink.Proofs.Json.RoundTrip

namespace ExecutionLink.Json

namespace Value

/-! ### Sorting -/

theorem insertMember_perm {key : String} {members : List (String × Value)}
    (hkey : key ∉ members.map Prod.fst) (v : Value) :
    (insertMember key v members).Perm ((key, v) :: members) := by
  induction members with
  | nil => exact .refl _
  | cons m members ih =>
    obtain ⟨k, w⟩ := m
    rw [List.map_cons, List.mem_cons, not_or] at hkey
    rw [insertMember]
    by_cases hlt : key < k
    · rw [if_pos hlt]
    · rw [if_neg hlt, if_neg hkey.1]
      exact ((ih hkey.2).cons (k, w)).trans (.swap (key, v) (k, w) members)

theorem foldl_insertMember_perm {members sorted : List (String × Value)}
    (hnodup : ((members ++ sorted).map Prod.fst).Nodup) :
    (members.foldl (fun sorted (k, v) => insertMember k v sorted) sorted).Perm
      (members ++ sorted) := by
  induction members generalizing sorted with
  | nil => exact .refl _
  | cons m members ih =>
    obtain ⟨key, v⟩ := m
    rw [List.cons_append, List.map_cons, List.nodup_cons, List.map_append, List.mem_append,
      not_or] at hnodup
    have hinsert := insertMember_perm hnodup.1.2 v
    -- the rest goes into what has one member more
    have hmoved : (members ++ insertMember key v sorted).Perm ((key, v) :: (members ++ sorted)) :=
      (hinsert.append_left members).trans List.perm_middle
    refine (ih ?_).trans hmoved
    rw [(hmoved.map Prod.fst).nodup_iff, List.map_cons, List.nodup_cons, List.map_append,
      List.mem_append, not_or]
    exact hnodup

theorem sortMembers_perm {members : List (String × Value)}
    (hnodup : (members.map Prod.fst).Nodup) : (sortMembers members).Perm members := by
  have h : (sortMembers members).Perm (members ++ []) :=
    foldl_insertMember_perm (by rw [List.append_nil]; exact hnodup)
  rwa [List.append_nil] at h

theorem sortedMembers_eq_map (members : List (String × Value)) :
    sortedMembers members = members.map fun (k, v) => (k, v.sorted) := by
  induction members with
  | nil => rfl
  | cons m members ih =>
    obtain ⟨k, v⟩ := m
    rw [sortedMembers, ih, List.map_cons]

theorem hasMembers_tree (members : List (String × Value)) :
    (Value.object members).tree.HasMembers (members.map fun (k, v) => (k, v.tree)) := by
  refine ⟨membersTrees members, rfl, ?_⟩
  induction members with
  | nil => exact .nil
  | cons m members ih =>
    obtain ⟨k, v⟩ := m
    exact .cons ⟨text?_literal k, rfl⟩ ih

end Value

/-- A member is the only one with its key if no key occurs twice. -/
theorem membersNamed_eq_singleton {members : List (String × Tree)}
    (hnodup : (members.map Prod.fst).Nodup) {key : String} {t : Tree}
    (h : (key, t) ∈ members) : membersNamed key members = [(key, t)] := by
  induction members with
  | nil => cases h
  | cons m members ih =>
    obtain ⟨k, u⟩ := m
    obtain ⟨hk, hnodup⟩ := List.nodup_cons.mp hnodup
    have hother : ∀ m ∈ members, m.1 ≠ k := by
      rintro m hm hmk
      exact hk (List.mem_map.mpr ⟨m, hm, hmk⟩)
    rcases List.mem_cons.mp h with heq | hmem
    · cases heq
      have hnone : membersNamed key members = [] :=
        List.filter_eq_nil_iff.mpr fun m hm => by simpa using hother m hm
      rw [membersNamed_cons_self, hnone]
    · rw [membersNamed_cons_of_ne (hother _ hmem).symm, ih hnodup hmem]

/-! ### Formats -/

/-- What the format makes of a value holds the value when it has been sorted. -/
def Format.Keeps {α : Type} (f : Format α) (holds : α → Tree → Prop) : Prop :=
  ∀ a, holds a (f.encode a).sorted.tree

namespace Fields

variable {α : Type} {fields : Fields α} {spec : α → List (String × (Tree → Prop))}

theorem map_fst_encode (fields : Fields α) (a : α) :
    (fields.encode a).map Prod.fst = fields.names := by
  induction fields with
  | nil => rfl
  | cons name format absent beyond rest ih => rw [encode, List.map_cons, ih, names]

theorem exists_mem_encode (h : Each (fun _ f holds => f.Keeps holds) fields spec) (a : α) :
    ∀ field ∈ spec a, ∃ v, (field.1, v) ∈ fields.encode a ∧ field.2 v.sorted.tree := by
  induction h with
  | nil => exact List.forall_mem_nil _
  | @cons _ _ name format rest holds spec first others ih =>
    obtain ⟨a, as⟩ := a
    refine List.forall_mem_cons.mpr ⟨⟨format.encode a, List.mem_cons_self, first a⟩, ?_⟩
    intro field hfield
    obtain ⟨v, hv, hholds⟩ := ih as field hfield
    exact ⟨v, List.mem_cons_of_mem _ hv, hholds⟩

end Fields

namespace Format

theorem keeps_text : text.Keeps IsText :=
  fun s => ⟨_, rfl, text?_literal s⟩

theorem keeps_bytes {n : Nat} : (bytes n).Keeps IsBytes :=
  fun b => ⟨b.hex, keeps_text b.hex, b.parse_hex⟩

theorem keeps_quotedInteger : quotedInteger.Keeps IsQuantity :=
  fun n => .inl ⟨Text.Natural.render n, keeps_text _, Text.Natural.read_render n⟩

theorem Keeps.list {α : Type} {f : Format α} {holds : α → Tree → Prop} (hf : f.Keeps holds) :
    f.list.Keeps (IsList holds) := by
  intro as
  refine ⟨_, rfl, ?_⟩
  induction as with
  | nil => exact .nil
  | cons a as ih => exact .cons (hf a) ih

theorem Keeps.record {α β : Type} {name : String} {fields : Fields β} {toFields : α → β}
    {ofFields : β → α} {spec : β → List (String × (Tree → Prop))}
    (h : Fields.Each (fun _ f holds => f.Keeps holds) fields spec) (hnodup : fields.names.Nodup) :
    (record name fields toFields ofFields).Keeps fun a => HoldsRecord (spec (toFields a)) := by
  intro a
  set sorted := Value.sortMembers (Value.sortedMembers (fields.encode (toFields a))) with hsorted
  have hkeys : ((Value.sortedMembers (fields.encode (toFields a))).map Prod.fst).Nodup := by
    rw [Value.sortedMembers_eq_map, List.map_map]
    show ((fields.encode (toFields a)).map Prod.fst).Nodup
    rw [Fields.map_fst_encode]
    exact hnodup
  have hperm : sorted.Perm (Value.sortedMembers (fields.encode (toFields a))) :=
    Value.sortMembers_perm hkeys
  refine .inl ⟨_, Value.hasMembers_tree sorted, fun field hfield => ?_⟩
  obtain ⟨v, hv, hholds⟩ := Fields.exists_mem_encode h (toFields a) field hfield
  refine ⟨v.sorted.tree, membersNamed_eq_singleton ?_ ?_, hholds⟩
  · rw [List.map_map]
    show (sorted.map Prod.fst).Nodup
    rw [(hperm.map Prod.fst).nodup_iff]
    exact hkeys
  · have hmem : (field.1, v.sorted) ∈ sorted := by
      rw [hperm.mem_iff, Value.sortedMembers_eq_map]
      exact List.mem_map_of_mem (f := fun (k, v) => (k, v.sorted)) hv
    exact List.mem_map_of_mem (f := fun (k, v) => (k, v.tree)) hmem

/-- What is written in the order of the keys is read back. -/
theorem Reads.read_sorted {α : Type} {f : Format α} {depth : Nat} {holds : α → Tree → Prop}
    (hf : f.Reads depth holds) (hdepth : depth ≤ documentRoom) (hkeeps : f.Keeps holds) (a : α) :
    f.read (f.encode a).sorted.render = .ok a :=
  (hf.read_eq_ok hdepth).mpr ⟨_, Value.spells_render _, hkeeps a⟩

end Format

end ExecutionLink.Json
