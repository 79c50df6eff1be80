/-
Tables whose entries are in increasing order of their keys.

An entry is looked up with `find?`.  `ensure` adds an entry only where there is
none yet, and `modify` changes an entry that exists; both keep the order and
leave the other entries alone.
-/

namespace ExecutionLink

/-- A table from keys to values. -/
structure Table (κ ν : Type) where
  entries : List (κ × ν) := []
  deriving Repr, DecidableEq

namespace Table

variable {κ ν : Type} [DecidableEq κ]

/-- The table without entries. -/
def empty : Table κ ν := ⟨[]⟩

/-- The keys in order. -/
def keys (t : Table κ ν) : List κ := t.entries.map (·.1)

/-- The value of a key. -/
def find? (t : Table κ ν) (k : κ) : Option ν := t.entries.lookup k

/-- Adds an entry in its place, unless the key has one. -/
def insertNew [LT κ] [DecidableLT κ] (k : κ) (v : ν) : List (κ × ν) → List (κ × ν)
  | [] => [(k, v)]
  | e :: es =>
    if k = e.1 then e :: es
    else if k < e.1 then (k, v) :: e :: es
    else e :: insertNew k v es

/-- The table with an entry for the key, which keeps the value that it has. -/
def ensure [LT κ] [DecidableLT κ] (t : Table κ ν) (k : κ) (v : ν) : Table κ ν :=
  match t.find? k with
  | some _ => t
  | none => ⟨insertNew k v t.entries⟩

/-- Applies a function to the value of a key, if the key has one. -/
def modify (t : Table κ ν) (k : κ) (f : ν → ν) : Table κ ν :=
  ⟨t.entries.map fun e => if e.1 = k then (e.1, f e.2) else e⟩

/-! ### Looking up after a change -/

theorem lookup_cons_ite (k : κ) (e : κ × ν) (es : List (κ × ν)) :
    (e :: es).lookup k = if k = e.1 then some e.2 else es.lookup k := by
  rw [List.lookup_cons]
  by_cases h : k = e.1
  · simp [h]
  · rw [if_neg h, beq_eq_false_iff_ne.mpr h]

theorem lookup_insertNew [LT κ] [DecidableLT κ] (k k' : κ) (v : ν) (es : List (κ × ν))
    (h : es.lookup k = none) :
    (insertNew k v es).lookup k' = if k' = k then some v else es.lookup k' := by
  induction es with
  | nil => rw [insertNew, lookup_cons_ite]
  | cons e es ih =>
    rw [lookup_cons_ite] at h
    have hne : k ≠ e.1 := by
      intro hk
      rw [if_pos hk] at h
      cases h
    rw [if_neg hne] at h
    rw [insertNew, if_neg hne]
    split
    · rw [lookup_cons_ite]
    · rw [lookup_cons_ite, lookup_cons_ite, ih h]
      by_cases he : k' = e.1
      · rw [if_pos he, if_neg fun hk => hne (hk.symm.trans he)]
        simp only [he, if_true]
      · rw [if_neg he, if_neg he]

/-- A key that is ensured keeps its value or gets the given one; the others are
as before. -/
theorem find?_ensure [LT κ] [DecidableLT κ] (t : Table κ ν) (k k' : κ) (v : ν) :
    (t.ensure k v).find? k' = if k' = k then some ((t.find? k).getD v) else t.find? k' := by
  unfold ensure
  split
  · rename_i w h
    by_cases hk : k' = k <;> simp [hk, h]
  · rename_i h
    simp only [find?] at h ⊢
    rw [lookup_insertNew k k' v _ h]
    by_cases hk : k' = k <;> simp [hk, h]

/-- Only the value of the modified key changes. -/
theorem find?_modify (t : Table κ ν) (k k' : κ) (f : ν → ν) :
    (t.modify k f).find? k' = if k' = k then (t.find? k).map f else t.find? k' := by
  simp only [find?, modify]
  generalize t.entries = es
  induction es with
  | nil => simp
  | cons e es ih =>
    rw [List.map_cons, lookup_cons_ite, lookup_cons_ite, lookup_cons_ite, ih]
    by_cases he : e.1 = k
    · subst he
      by_cases hk : k' = e.1 <;> simp [hk]
    · by_cases hk : k' = k
      · subst hk
        simp [he, Ne.symm he]
      · simp [he, hk]

/-! ### The entries -/

/-- If no key comes twice, the entries are what is found. -/
theorem mem_entries_iff {t : Table κ ν} (h : t.keys.Nodup) (k : κ) (v : ν) :
    (k, v) ∈ t.entries ↔ t.find? k = some v := by
  obtain ⟨es⟩ := t
  show (k, v) ∈ es ↔ es.lookup k = some v
  induction es with
  | nil => simp
  | cons e es ih =>
    obtain ⟨he, hes⟩ := List.nodup_cons.mp h
    rw [List.mem_cons, lookup_cons_ite, ih hes]
    by_cases hk : k = e.1
    · rw [if_pos hk]
      -- the key does not come again
      have hnone : es.lookup k ≠ some v := by
        intro hlookup
        have hmem : k ∈ es.map (·.1) := List.mem_map_of_mem ((ih hes).mpr hlookup)
        rw [hk] at hmem
        exact he hmem
      constructor
      · rintro (rfl | hlookup)
        · rfl
        · exact absurd hlookup hnone
      · rintro ⟨⟩
        exact .inl (Prod.ext hk rfl)
    · rw [if_neg hk]
      constructor
      · rintro (rfl | hlookup)
        · exact absurd rfl hk
        · exact hlookup
      · exact .inr

/-! ### The entries after a change -/

theorem eq_or_mem_of_mem_insertNew [LT κ] [DecidableLT κ] {k : κ} {v : ν} {es : List (κ × ν)}
    {e : κ × ν} (h : e ∈ insertNew k v es) : e = (k, v) ∨ e ∈ es := by
  induction es with
  | nil => exact .inl (List.mem_singleton.mp h)
  | cons d es ih =>
    rw [insertNew] at h
    split at h
    · exact .inr h
    · split at h
      · exact List.mem_cons.mp h
      · rcases List.mem_cons.mp h with rfl | h
        · exact .inr List.mem_cons_self
        · exact (ih h).imp_right (List.mem_cons_of_mem d)

/-- What is true of all entries stays true if it is true of the one that is added. -/
theorem forall_mem_ensure [LT κ] [DecidableLT κ] {P : κ × ν → Prop} {t : Table κ ν}
    (h : ∀ e ∈ t.entries, P e) {k : κ} {v : ν} (hnew : P (k, v)) :
    ∀ e ∈ (t.ensure k v).entries, P e := by
  intro e he
  unfold ensure at he
  split at he
  · exact h e he
  · rcases eq_or_mem_of_mem_insertNew he with rfl | he
    · exact hnew
    · exact h e he

/-- What is true of all entries stays true if the function keeps it. -/
theorem forall_mem_modify {P : κ × ν → Prop} {t : Table κ ν} (h : ∀ e ∈ t.entries, P e)
    (k : κ) {f : ν → ν} (hf : ∀ k v, P (k, v) → P (k, f v)) :
    ∀ e ∈ (t.modify k f).entries, P e := by
  intro e he
  obtain ⟨d, hd, rfl⟩ := List.mem_map.mp he
  split
  · exact hf d.1 d.2 (h d hd)
  · exact h d hd

/-- Modifying leaves the keys as they are. -/
theorem keys_modify (t : Table κ ν) (k : κ) (f : ν → ν) : (t.modify k f).keys = t.keys := by
  simp only [keys, modify, List.map_map]
  apply List.map_congr_left
  intro e _
  simp only [Function.comp]
  split <;> rfl

theorem nodup_keys_insertNew [LT κ] [DecidableLT κ] {k : κ} (v : ν) {es : List (κ × ν)}
    (h : (es.map (·.1)).Nodup) (hk : k ∉ es.map (·.1)) :
    ((insertNew k v es).map (·.1)).Nodup := by
  induction es with
  | nil => exact List.nodup_cons.mpr ⟨hk, h⟩
  | cons e es ih =>
    obtain ⟨he, hes⟩ := List.nodup_cons.mp h
    obtain ⟨hne, hk'⟩ := not_or.mp fun hmem => hk (List.mem_cons.mpr hmem)
    rw [insertNew, if_neg hne]
    split
    · exact List.nodup_cons.mpr ⟨hk, h⟩
    · refine List.nodup_cons.mpr ⟨fun hmem => ?_, ih hes hk'⟩
      obtain ⟨d, hd, hkey⟩ := List.mem_map.mp hmem
      rcases eq_or_mem_of_mem_insertNew hd with rfl | hd
      · exact hne hkey
      · exact he (hkey ▸ List.mem_map_of_mem hd)

/-- A key that is ensured does not come twice. -/
theorem nodup_keys_ensure [LT κ] [DecidableLT κ] {t : Table κ ν} (h : t.keys.Nodup) (k : κ)
    (v : ν) : (t.ensure k v).keys.Nodup := by
  unfold ensure
  split
  · exact h
  · rename_i hnone
    refine nodup_keys_insertNew v h fun hmem => ?_
    obtain ⟨e, he, rfl⟩ := List.mem_map.mp hmem
    have hne := List.lookup_eq_none_iff.mp hnone e he
    simp at hne

end Table

end ExecutionLink
