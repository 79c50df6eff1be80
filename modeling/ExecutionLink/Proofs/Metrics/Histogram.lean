/-
A matrix counts exactly what it was given to record.

* `CounterMatrix.tally_eq_countP` — the samples of a bucket are those that fall into it.
* `CounterMatrix.sum_tally` — every sample falls into one bucket.
* `CounterMatrix.histogram_exact` — whatever the bounds were, the counts of the buckets,
  the totals and the snapshot of a matrix are those of the recorded samples.
-/
import ExecutionLink.Proofs.Metrics.Buckets
import ExecutionLink.Proofs.Metrics.Snapshot
import Mathlib.Algebra.BigOperators.Group.Finset.Piecewise
import Mathlib.Algebra.GroupWithZero.Nat

namespace ExecutionLink.CounterMatrix

variable {m : CounterMatrix}

/-! ### Samples of a bucket -/

theorem tally_eq_countP (bounds : Bounds) (xs : List Sample) (s : Series) {i : Nat}
    (hi : i ≤ bounds.values.length) :
    tally bounds xs s i =
      xs.countP fun x => x.series = s ∧ FallsInto bounds.values i x.duration := by
  refine List.countP_congr fun x _ => ?_
  rw [decide_eq_true_eq, decide_eq_true_eq, eq_comm (a := s), eq_comm (a := i),
    bucketIndex_eq_iff bounds.increasing x.duration hi]

theorem tally_eq_zero (bounds : Bounds) (xs : List Sample) (s : Series) {i : Nat}
    (hi : bounds.values.length < i) : tally bounds xs s i = 0 := by
  refine List.countP_eq_zero.mpr fun x _ hx => ?_
  obtain ⟨-, rfl⟩ := of_decide_eq_true hx
  have hbucket := bucketIndex_lt bounds x.duration
  rw [bounds.length_intervals] at hbucket
  omega

theorem tally_le_length (bounds : Bounds) (xs : List Sample) (s : Series) (i : Nat) :
    tally bounds xs s i ≤ xs.length :=
  List.countP_le_length

open Finset in
/-- The buckets of a series share out its samples. -/
theorem sum_tally (bounds : Bounds) (xs : List Sample) (s : Series) :
    ((List.range bounds.intervals.length).map (tally bounds xs s)).sum =
      xs.countP fun x => x.series = s := by
  show ∑ i ∈ range bounds.intervals.length, tally bounds xs s i = _
  induction xs with
  | nil => exact sum_const_zero
  | cons x xs ih =>
    have hbucket : bucketIndex bounds.values x.duration ∈ range bounds.intervals.length :=
      mem_range.mpr (bucketIndex_lt bounds x.duration)
    simp only [tally_cons, and_comm (a := s = x.series), ite_and]
    rw [sum_add_distrib, ih, sum_ite_eq', if_pos hbucket, List.countP_cons]
    simp only [decide_eq_true_eq, eq_comm (a := s)]

/-! ### Totals -/

/-- As long as nothing wraps around, 64-bit numbers add up like natural numbers. -/
theorem toNat_foldr_add {vs : List UInt64} (h : (vs.map UInt64.toNat).sum < UInt64.size) :
    (vs.foldr (· + ·) 0).toNat = (vs.map UInt64.toNat).sum := by
  induction vs with
  | nil => rfl
  | cons v vs ih =>
    rw [List.map_cons, List.sum_cons] at h ⊢
    rw [List.foldr_cons, UInt64.toNat_add, ih (by omega)]
    exact Nat.mod_eq_of_lt h

/-! ### Counters of buckets -/

/-- A sample is counted by a counter that is there. -/
theorem Proper.exists_counter (h : m.Proper) (x : Sample) :
    ∃ l ∈ (m.makeRow x.series).1[bucketIndex m.bounds.values x.duration]?,
      ((m.makeRow x.series).2.family.counters.find? l).isSome := by
  have hbucket : bucketIndex m.bounds.values x.duration < (m.labels x.series).length := by
    rw [length_labels]
    exact bucketIndex_lt m.bounds x.duration
  rw [h.makeRow_fst, List.getElem?_eq_getElem hbucket]
  refine ⟨_, rfl, (isSome_find?_makeRow h x.series _).mpr (.inl ?_)⟩
  exact List.getElem_mem hbucket

/-- No two buckets share a counter, be it those of one series or of two. -/
theorem Proper.bucket_unique (h : m.Proper) {s s' : Series} {row row' : Row}
    (hrow : m.row? s = some row) (hrow' : m.row? s' = some row') {i i' : Nat} {l : Labels}
    (hl : row[i]? = some l) (hl' : row'[i']? = some l) : s = s' ∧ i = i' := by
  obtain rfl := h.row s row hrow
  obtain rfl := h.row s' row' hrow'
  obtain rfl := series_eq_of_mem_labels (List.mem_of_getElem? hl) (List.mem_of_getElem? hl')
  obtain ⟨hi, heq⟩ := List.getElem?_eq_some_iff.mp hl
  obtain ⟨hi', heq'⟩ := List.getElem?_eq_some_iff.mp hl'
  exact ⟨rfl, (m.nodup_labels s).getElem_inj_iff.mp (heq.trans heq'.symm)⟩

/-! ### After recording -/

section Recorded

variable {name help : String} {bounds : List UInt64} (hnew : new name help bounds = .ok m)
  (xs : List Sample)
include hnew

theorem isSome_row?_recorded (s : Series) :
    ((xs.foldl record m).row? s).isSome ↔ s ∈ xs.map Sample.series := by
  rw [isSome_row?_foldl_record, eq_of_new hnew]
  exact or_iff_left Bool.false_ne_true

theorem toNat_count_recorded (hfew : xs.length < UInt64.size) (s : Series) (i : Nat) :
    ((xs.foldl record m).count s i).toNat = tally m.bounds xs s i := by
  have hle : tally m.bounds xs s i ≤ xs.length := tally_le_length m.bounds xs s i
  have hzero : m.count s i = 0 := by
    rw [eq_of_new hnew]
    rfl
  rw [count_foldl_record (proper_of_new hnew), hzero, UInt64.zero_add]
  exact UInt64.toNat_ofNat_of_lt' (by omega)

/-- The counts of a series, bucket by bucket. -/
theorem map_toNat_recorded (hfew : xs.length < UInt64.size) (s : Series) :
    ((List.range m.bucketCount).map ((xs.foldl record m).count s)).map UInt64.toNat =
      (List.range m.bucketCount).map (tally m.bounds xs s) := by
  rw [List.map_map]
  exact List.map_congr_left fun i _ => toNat_count_recorded hnew xs hfew s i

theorem toNat_total_recorded (hfew : xs.length < UInt64.size) (s : Series) :
    ((xs.foldl record m).total s).toNat = xs.countP fun x => x.series = s := by
  have h : (xs.foldl record m).Proper := (proper_of_new hnew).foldl_record xs
  unfold total
  cases hrow : (xs.foldl record m).row? s with
  | none =>
    refine (List.countP_eq_zero.mpr fun x hx hs => ?_).symm
    have hseen := (isSome_row?_recorded hnew xs s).mpr
      (List.mem_map.mpr ⟨x, hx, of_decide_eq_true hs⟩)
    rw [hrow] at hseen
    cases hseen
  | some row =>
    have hcounts : ((xs.foldl record m).counts row).map UInt64.toNat =
        (List.range m.bucketCount).map (tally m.bounds xs s) := by
      rw [h.row s row hrow, h.counts_labels, (alike_foldl_record m xs).bucketCount_eq,
        map_toNat_recorded hnew xs hfew]
    have hsum := sum_tally m.bounds xs s
    rw [← intervals, ← bucketCount, ← hcounts] at hsum
    show (((xs.foldl record m).counts row).foldr (· + ·) 0).toNat = _
    rw [toNat_foldr_add, hsum]
    rw [hsum]
    exact Nat.lt_of_le_of_lt List.countP_le_length hfew

end Recorded

/-! ### The main result -/

/-- A matrix counts the samples of a series that are beyond the bound below a bucket and
not beyond its own, and nothing in buckets that it does not have.  A total is the number
of all samples of the series.  The snapshot has the series that were recorded, once each,
with the counts of all their buckets.  Whatever is recorded next finds a counter, and no
two buckets have the same one. -/
theorem histogram_exact {name help : String} {bounds : List UInt64}
    (hnew : new name help bounds = .ok m) (xs : List Sample) (hfew : xs.length < UInt64.size) :
    let t := (bounds.mergeSort (· ≤ ·)).dedup
    let r := xs.foldl record m
    (∀ s i, i ≤ t.length →
      (r.count s i).toNat = xs.countP fun x => x.series = s ∧ FallsInto t i x.duration) ∧
    (∀ s i, t.length < i → r.count s i = 0) ∧
    (∀ s, (r.total s).toNat = xs.countP fun x => x.series = s) ∧
    (r.snapshot.map Prod.fst).Nodup ∧
    (∀ s counts, (s, counts) ∈ r.snapshot ↔
      s ∈ xs.map Sample.series ∧ counts = (List.range (t.length + 1)).map (r.count s)) ∧
    (∀ x : Sample, ∃ l ∈ (r.makeRow x.series).1[bucketIndex r.bounds.values x.duration]?,
      ((r.makeRow x.series).2.family.counters.find? l).isSome) ∧
    ∀ (s s' : Series) (row row' : Row), r.row? s = some row → r.row? s' = some row' →
      ∀ (i i' : Nat) (l : Labels), row[i]? = some l → row'[i']? = some l → s = s' ∧ i = i' := by
  intro t r
  have h : r.Tidy := (tidy_of_new hnew).foldl_record xs
  have hbounds : m.bounds.values = t := by
    rw [eq_of_new hnew]
    exact Bounds.values_ofList bounds
  have hbuckets : r.bucketCount = t.length + 1 := by
    rw [bucketCount, intervals, bounds_foldl_record, Bounds.length_intervals, hbounds]
  refine ⟨fun s i hi => ?_, fun s i hi => ?_, toNat_total_recorded hnew xs hfew,
    h.nodup_snapshot, fun s counts => ?_, h.toProper.exists_counter,
    fun s s' row row' hrow hrow' i i' l => h.toProper.bucket_unique hrow hrow'⟩
  · rw [← hbounds] at hi ⊢
    rw [toNat_count_recorded hnew xs hfew, tally_eq_countP m.bounds xs s hi]
  · rw [← hbounds] at hi
    refine UInt64.toNat_inj.mp ?_
    rw [toNat_count_recorded hnew xs hfew, tally_eq_zero m.bounds xs s hi]
    rfl
  · rw [h.mem_snapshot, isSome_row?_recorded hnew, hbuckets]

/-- Bounds that come out of order and twice, among them the least and the greatest
number there is: nothing is beyond the last of them. -/
theorem histogram_exact_extremes :
    ∃ m, new "calls" "Calls to a builder" [300, 0, 300, 18446744073709551615] = .ok m ∧
      let s : Series := ⟨"status", .success⟩
      let r := [⟨s, 0⟩, ⟨s, 300⟩, ⟨s, 1⟩, ⟨⟨"status", .error⟩, 300⟩, ⟨s, 301⟩].foldl record m
      (r.count s 0).toNat = 1 ∧ (r.count s 1).toNat = 2 ∧ (r.count s 2).toNat = 1 ∧
        (r.count s 3).toNat = 0 ∧ r.count s 4 = 0 ∧ (r.total s).toNat = 4 := by
  have hnew : new "calls" "Calls to a builder" [300, 0, 300, 18446744073709551615] = .ok _ := rfl
  obtain ⟨hcount, hnone, htotal, -⟩ := histogram_exact hnew
    [⟨⟨"status", .success⟩, 0⟩, ⟨⟨"status", .success⟩, 300⟩, ⟨⟨"status", .success⟩, 1⟩,
      ⟨⟨"status", .error⟩, 300⟩, ⟨⟨"status", .success⟩, 301⟩] (by decide)
  rw [← Bounds.values_ofList] at hcount hnone
  exact ⟨_, hnew, hcount _ 0 (by decide), hcount _ 1 (by decide), hcount _ 2 (by decide),
    hcount _ 3 (by decide), hnone _ 4 (by decide), htotal _⟩

end ExecutionLink.CounterMatrix
