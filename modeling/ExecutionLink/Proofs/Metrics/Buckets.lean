/-
Which bucket a duration falls into.

A bucket reaches from the bound below it, which does not belong to it, to its own
bound, which does; the first bucket has no bound below and the last one none of its own
(`FallsInto`).

* `Bounds.values_ofList` — the bounds of a matrix are the given ones in increasing
  order, each once.
* `bucketIndex_eq_iff` — among increasing bounds, the index of a duration is that of the
  only bucket that it falls into.
-/
import ExecutionLink.Metrics.Interval
import Mathlib.Data.List.Dedup

namespace ExecutionLink

/-! ### Bounds -/

theorem Bounds.values_ofList (bs : List UInt64) :
    (ofList bs).values = (bs.mergeSort (· ≤ ·)).dedup := by
  have hsorted : (bs.mergeSort (· ≤ ·)).Pairwise (· ≤ ·) := by
    have h := @List.pairwise_mergeSort UInt64 (fun a b => decide (a ≤ b))
      (fun a b c hab hbc => by
        rw [decide_eq_true_eq] at hab hbc ⊢
        exact UInt64.le_trans hab hbc)
      (fun a b => by
        rw [Bool.or_eq_true, decide_eq_true_eq, decide_eq_true_eq]
        exact UInt64.le_total a b) bs
    exact h.imp fun hab => of_decide_eq_true hab
  have hnodup : (bs.mergeSort (· ≤ ·)).dedup.Nodup := List.nodup_dedup _
  have hincreasing : (bs.mergeSort (· ≤ ·)).dedup.Pairwise (· < ·) :=
    (hsorted.sublist (List.dedup_sublist _)).imp₂
      (fun _ _ hle hne => UInt64.lt_of_le_of_ne hle hne) hnodup
  have hperm : (sort bs).Perm (bs.mergeSort (· ≤ ·)).dedup := by
    refine (List.perm_ext_iff_of_nodup ((pairwise_sort bs).imp UInt64.ne_of_lt) hnodup).mpr ?_
    intro a
    rw [mem_sort, List.mem_dedup, List.mem_mergeSort]
  -- two increasing lists of the same bounds
  exact hperm.eq_of_pairwise (fun a b _ _ hab hba => absurd hba (UInt64.lt_asymm hab))
    (pairwise_sort bs) hincreasing

/-! ### Buckets -/

/-- The bound that a bucket starts above; the first bucket has none. -/
def boundBelow? (bounds : List UInt64) : Nat → Option UInt64
  | 0 => none
  | i + 1 => bounds[i]?

/-- A duration falls into a bucket if it is beyond the bound below the bucket and not
beyond the bucket's own bound, as far as there are such bounds. -/
def FallsInto (bounds : List UInt64) (bucket : Nat) (duration : UInt64) : Prop :=
  (∀ b ∈ boundBelow? bounds bucket, b < duration) ∧ ∀ b ∈ bounds[bucket]?, duration ≤ b

instance (bounds : List UInt64) (bucket : Nat) (duration : UInt64) :
    Decidable (FallsInto bounds bucket duration) :=
  @instDecidableAnd _ _ (Option.decidableForallMem _) (Option.decidableForallMem _)

theorem bucketIndex_cons (b : UInt64) (bs : List UInt64) (d : UInt64) :
    bucketIndex (b :: bs) d = if b < d then bucketIndex bs d + 1 else 0 := by
  unfold bucketIndex
  rw [List.takeWhile_cons]
  by_cases h : b < d <;> simp [h]

theorem fallsInto_cons_succ {b : UInt64} (bs : List UInt64) {d : UInt64} (h : b < d) (i : Nat) :
    FallsInto (b :: bs) (i + 1) d ↔ FallsInto bs i d := by
  cases i with
  | zero => simp [FallsInto, boundBelow?, h]
  | succ i => simp [FallsInto, boundBelow?]

theorem bucketIndex_eq_iff {bs : List UInt64} (h : bs.Pairwise (· < ·)) (d : UInt64) {i : Nat}
    (hi : i ≤ bs.length) : bucketIndex bs d = i ↔ FallsInto bs i d := by
  induction bs generalizing i with
  | nil =>
    obtain rfl : i = 0 := Nat.le_zero.mp hi
    simp [bucketIndex, FallsInto, boundBelow?]
  | cons b bs ih =>
    obtain ⟨hb, hbs⟩ := List.pairwise_cons.mp h
    rw [bucketIndex_cons]
    by_cases hlt : b < d
    · rw [if_pos hlt]
      cases i with
      | zero => simp [FallsInto, hlt]
      | succ i =>
        rw [fallsInto_cons_succ bs hlt, ← ih hbs (Nat.le_of_succ_le_succ hi)]
        omega
    · rw [if_neg hlt]
      cases i with
      | zero => simp [FallsInto, boundBelow?, UInt64.not_lt.mp hlt]
      | succ i =>
        -- the bound below is `b` or comes after it, so the duration is not beyond it
        refine iff_of_false (Nat.succ_ne_zero i).symm ?_
        rintro ⟨hbelow, -⟩
        have hmem := List.getElem_mem (l := b :: bs) (show i < (b :: bs).length from hi)
        have hbeyond := hbelow _ (List.getElem?_eq_getElem hi)
        rcases List.mem_cons.mp hmem with heq | hmem
        · exact hlt (heq ▸ hbeyond)
        · exact hlt (UInt64.lt_trans (hb _ hmem) hbeyond)

end ExecutionLink
