/-
A table is nothing more than what is found in it.

The entries of a table are in increasing order of their keys if it was made by
adding and changing entries (`Table.Sorted`).  So there is only one table in which
the same is found under every key:

* `Table.ext_of_sorted` — sorted tables with the same entries to be found are equal.
-/
import ExecutionLink.Table
import Mathlib.Data.List.Nodup
import Mathlib.Order.Defs.Unbundled

namespace ExecutionLink.Table

variable {κ ν : Type} [LT κ]

/-- The entries are in increasing order of their keys. -/
def Sorted (t : Table κ ν) : Prop :=
  t.entries.Pairwise fun a b => a.1 < b.1

theorem sorted_empty : (empty : Table κ ν).Sorted := List.Pairwise.nil

variable [DecidableEq κ]

theorem sorted_modify {t : Table κ ν} (h : t.Sorted) (k : κ) (f : ν → ν) :
    (t.modify k f).Sorted := by
  refine List.pairwise_map.mpr (h.imp fun {a b} hab => ?_)
  -- whether or not an entry is changed, its key stays
  have hkey : ∀ e : κ × ν, (if e.1 = k then (e.1, f e.2) else e).1 = e.1 := by
    intro e
    split <;> rfl
  rw [hkey, hkey]
  exact hab

variable [IsStrictTotalOrder κ (· < ·)]

theorem pairwise_insertNew [DecidableLT κ] {es : List (κ × ν)}
    (h : es.Pairwise fun a b => a.1 < b.1) (k : κ) (v : ν) :
    (insertNew k v es).Pairwise fun a b => a.1 < b.1 := by
  induction es with
  | nil => exact List.pairwise_singleton _ _
  | cons e es ih =>
    obtain ⟨he, hes⟩ := List.pairwise_cons.mp h
    rw [insertNew]
    split
    next => exact h
    next hne =>
      split
      next hlt =>
        refine List.pairwise_cons.mpr ⟨fun d hd => ?_, h⟩
        rcases List.mem_cons.mp hd with rfl | hd
        · exact hlt
        · exact trans_of (· < ·) hlt (he d hd)
      next hge =>
        -- the new key comes after the first one, and so does where it is put
        have hgt : e.1 < k := ((trichotomous_of (· < ·) k e.1).resolve_left hge).resolve_left hne
        refine List.pairwise_cons.mpr ⟨fun d hd => ?_, ih hes⟩
        rcases eq_or_mem_of_mem_insertNew hd with rfl | hd
        · exact hgt
        · exact he d hd

theorem sorted_ensure [DecidableLT κ] {t : Table κ ν} (h : t.Sorted) (k : κ) (v : ν) :
    (t.ensure k v).Sorted := by
  unfold ensure
  split
  · exact h
  · exact pairwise_insertNew h k v

/-! ### Equal tables -/

omit [DecidableEq κ] in
theorem Sorted.nodup_keys {t : Table κ ν} (h : t.Sorted) : t.keys.Nodup := by
  refine List.pairwise_map.mpr (h.imp fun {a b} hab heq => ?_)
  rw [heq] at hab
  exact irrefl_of (· < ·) b.1 hab

omit [DecidableEq κ] in
theorem Sorted.nodup {t : Table κ ν} (h : t.Sorted) : t.entries.Nodup :=
  List.Nodup.of_map _ h.nodup_keys

/-- Sorted tables in which the same is found are equal. -/
theorem ext_of_sorted {t u : Table κ ν} (ht : t.Sorted) (hu : u.Sorted)
    (h : ∀ k, t.find? k = u.find? k) : t = u := by
  have hmem : ∀ e, e ∈ t.entries ↔ e ∈ u.entries := by
    rintro ⟨k, v⟩
    rw [mem_entries_iff ht.nodup_keys, mem_entries_iff hu.nodup_keys, h k]
  have hperm : t.entries.Perm u.entries :=
    (List.perm_ext_iff_of_nodup ht.nodup hu.nodup).mpr hmem
  have hentries : t.entries = u.entries :=
    hperm.eq_of_pairwise (fun a b _ _ hab hba => absurd hba (asymm_of (· < ·) hab)) ht hu
  cases t
  cases u
  exact congrArg Table.mk hentries

end ExecutionLink.Table
