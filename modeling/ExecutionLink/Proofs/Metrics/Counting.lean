/-
A recorded sample is counted once, in its own series and its own bucket.

* `CounterMatrix.Proper` — what every matrix is like that was ever recorded
  into: the row of a series, if it was seen, holds its own labels, for each of
  which there is a counter; a series that was not seen has counted nothing.
* `CounterMatrix.count_record` — recording a sample adds one to the count of its
  series and its bucket and changes no other count.
* `CounterMatrix.count_foldl_record` — recording many adds, modulo two to the
  power of 64, as many as there are of the series and the bucket.

That no other count changes rests on the labels: those of one series differ from
bucket to bucket, and no two series share any.
-/
import ExecutionLink.Metrics.CounterMatrix
import ExecutionLink.Proofs.Metrics.Intervals

namespace ExecutionLink

theorem Outcome.label_injective {a b : Outcome} (h : a.label = b.label) : a = b := by
  cases a <;> cases b <;> simp_all [label]

/-! ### Counters -/

namespace CounterFamily

theorem isSome_find?_withCounter (f : CounterFamily) (a b : Labels) :
    ((f.withCounter a).counters.find? b).isSome ↔ b = a ∨ (f.counters.find? b).isSome := by
  rw [withCounter, Table.find?_ensure]
  by_cases h : b = a <;> simp [h]

theorem isSome_find?_foldl_withCounter (row : Row) (f : CounterFamily) (l : Labels) :
    ((row.foldl withCounter f).counters.find? l).isSome ↔
      l ∈ row ∨ (f.counters.find? l).isSome := by
  induction row generalizing f with
  | nil => simp
  | cons a row ih =>
    rw [List.foldl_cons, ih, isSome_find?_withCounter, List.mem_cons]
    tauto

/-- Making counters changes no count. -/
theorem value_foldl_withCounter (row : Row) (f : CounterFamily) (l : Labels) :
    (row.foldl withCounter f).value l = f.value l := by
  induction row generalizing f with
  | nil => rfl
  | cons a row ih => rw [List.foldl_cons, ih, value_withCounter]

theorem isSome_find?_increment (f : CounterFamily) (a b : Labels) :
    ((f.increment a).counters.find? b).isSome ↔ (f.counters.find? b).isSome := by
  rw [increment, Table.find?_modify]
  by_cases h : b = a <;> simp [h]

end CounterFamily

namespace CounterMatrix

variable {m : CounterMatrix}

/-! ### Labels -/

theorem nodup_labels (m : CounterMatrix) (s : Series) : (m.labels s).Nodup := by
  have h := m.bounds.nodup_labels
  rw [List.Nodup, List.pairwise_map] at h
  rw [labels, List.Nodup, List.pairwise_map]
  exact h.imp fun hne heq => hne (congrArg Labels.interval heq)

theorem length_labels (m : CounterMatrix) (s : Series) : (m.labels s).length = m.bucketCount := by
  rw [labels, List.length_map, bucketCount]

/-- Labels belong to one series only. -/
theorem series_eq_of_mem_labels {s t : Series} {l : Labels} (hs : l ∈ m.labels s)
    (ht : l ∈ m.labels t) : s = t := by
  obtain ⟨i, -, rfl⟩ := List.mem_map.mp hs
  obtain ⟨j, -, hj⟩ := List.mem_map.mp ht
  rw [Labels.mk.injEq] at hj
  obtain ⟨-, hmethod, houtcome⟩ := hj
  exact congrArg₂ Series.mk hmethod.symm (Outcome.label_injective houtcome.symm)

/-! ### Proper matrices -/

/-- A matrix that is recorded into. -/
structure Proper (m : CounterMatrix) : Prop where
  row : ∀ s row, m.row? s = some row → row = m.labels s
  counter : ∀ s, (m.row? s).isSome → ∀ l ∈ m.labels s, (m.family.counters.find? l).isSome
  unseen : ∀ s, m.row? s = none → ∀ l ∈ m.labels s, m.family.value l = 0

theorem proper_of_new {name help : String} {bounds : List UInt64}
    (h : new name help bounds = .ok m) : m.Proper := by
  unfold new at h
  split at h
  · cases h
  · split at h
    · cases h
      exact ⟨nofun, nofun, fun _ _ _ _ => rfl⟩
    · cases h

namespace Proper

/-- The counts of a series are the values of its counters. -/
theorem count_eq (h : m.Proper) (s : Series) (i : Nat) :
    m.count s i = ((m.labels s)[i]?.map m.family.value).getD 0 := by
  unfold count
  cases hrow : m.row? s with
  | none =>
    show (0 : UInt64) = _
    cases hl : (m.labels s)[i]? with
    | none => rfl
    | some l => exact (h.unseen s hrow l (List.mem_of_getElem? hl)).symm
  | some row =>
    obtain rfl := h.row s row hrow
    show ((m.counts (m.labels s))[i]?).getD 0 = _
    rw [counts, List.getElem?_map]

theorem makeRow_fst (h : m.Proper) (s : Series) : (m.makeRow s).1 = m.labels s := by
  unfold makeRow
  cases hrow : m.row? s with
  | none => rfl
  | some row => exact h.row s row hrow

end Proper

/-! ### Making a row -/

@[simp] theorem bounds_makeRow (m : CounterMatrix) (s : Series) :
    (m.makeRow s).2.bounds = m.bounds := by
  unfold makeRow
  cases m.row? s <;> rfl

theorem labels_makeRow (m : CounterMatrix) (s t : Series) :
    (m.makeRow s).2.labels t = m.labels t := by
  rw [labels, intervals, bounds_makeRow]
  rfl

theorem value_makeRow (m : CounterMatrix) (s : Series) (l : Labels) :
    (m.makeRow s).2.family.value l = m.family.value l := by
  unfold makeRow
  cases m.row? s with
  | none => exact CounterFamily.value_foldl_withCounter _ _ _
  | some row => rfl

/-- The row of a series is made if there is none; the other rows are as before. -/
theorem row?_makeRow (m : CounterMatrix) (s t : Series) :
    (m.makeRow s).2.row? t = if t = s then some (m.makeRow s).1 else m.row? t := by
  unfold makeRow
  cases hrow : m.row? s with
  | none =>
    show (m.rows.ensure s (m.labels s)).find? t = _
    have hfind : m.rows.find? s = none := hrow
    rw [Table.find?_ensure, hfind]
    rfl
  | some row =>
    by_cases hts : t = s
    · rw [if_pos hts, hts, hrow]
    · rw [if_neg hts]

theorem isSome_find?_makeRow (h : m.Proper) (s : Series) (l : Labels) :
    ((m.makeRow s).2.family.counters.find? l).isSome ↔
      l ∈ m.labels s ∨ (m.family.counters.find? l).isSome := by
  unfold makeRow
  cases hrow : m.row? s with
  | none => exact CounterFamily.isSome_find?_foldl_withCounter _ _ _
  | some row =>
    show _ ↔ _
    constructor
    · exact .inr
    · rintro (hl | hl)
      · exact h.counter s (Option.isSome_of_eq_some hrow) l hl
      · exact hl

namespace Proper

theorem makeRow (h : m.Proper) (s : Series) : (m.makeRow s).2.Proper where
  row t row hrow := by
    rw [row?_makeRow] at hrow
    rw [labels_makeRow]
    by_cases hts : t = s
    · rw [if_pos hts, h.makeRow_fst, Option.some.injEq] at hrow
      rw [← hrow, hts]
    · rw [if_neg hts] at hrow
      exact h.row t row hrow
  counter t hseen l hl := by
    rw [labels_makeRow] at hl
    rw [isSome_find?_makeRow h]
    rw [row?_makeRow] at hseen
    by_cases hts : t = s
    · rw [← hts]
      exact .inl hl
    · rw [if_neg hts] at hseen
      exact .inr (h.counter t hseen l hl)
  unseen t hrow l hl := by
    rw [labels_makeRow] at hl
    rw [value_makeRow]
    rw [row?_makeRow] at hrow
    by_cases hts : t = s
    · rw [if_pos hts] at hrow
      cases hrow
    · rw [if_neg hts] at hrow
      exact h.unseen t hrow l hl

end Proper

/-! ### Counting one more -/

@[simp] theorem bounds_increment (m : CounterMatrix) (row : Row) (d : UInt64) :
    (m.increment row d).bounds = m.bounds := by
  unfold increment
  split <;> rfl

theorem row?_increment (m : CounterMatrix) (row : Row) (d : UInt64) (s : Series) :
    (m.increment row d).row? s = m.row? s := by
  unfold increment
  split <;> rfl

theorem labels_increment (m : CounterMatrix) (row : Row) (d : UInt64) (s : Series) :
    (m.increment row d).labels s = m.labels s := by
  rw [labels, intervals, bounds_increment]
  rfl

theorem isSome_find?_increment (m : CounterMatrix) (row : Row) (d : UInt64) (l : Labels) :
    ((m.increment row d).family.counters.find? l).isSome ↔
      (m.family.counters.find? l).isSome := by
  unfold increment
  split
  · exact CounterFamily.isSome_find?_increment _ _ _
  · exact Iff.rfl

/-- Only the counter of the bucket grows. -/
theorem value_increment_labels (h : m.Proper) {s : Series} (hseen : (m.row? s).isSome)
    (d : UInt64) (l : Labels) :
    (m.increment (m.labels s) d).family.value l =
      if (m.labels s)[bucketIndex m.bounds.values d]? = some l then m.family.value l + 1
      else m.family.value l := by
  unfold increment
  cases hl : (m.labels s)[bucketIndex m.bounds.values d]? with
  | none => rfl
  | some l' =>
    have hcounter := h.counter s hseen l' (List.mem_of_getElem? hl)
    refine (CounterFamily.value_increment _ _ _ hcounter).trans ?_
    simp only [Option.some.injEq, eq_comm]

theorem Proper.increment (h : m.Proper) {s : Series} (hseen : (m.row? s).isSome) (d : UInt64) :
    (m.increment (m.labels s) d).Proper where
  row t row hrow := by
    rw [row?_increment] at hrow
    rw [labels_increment]
    exact h.row t row hrow
  counter t htseen l hl := by
    rw [row?_increment] at htseen
    rw [labels_increment] at hl
    rw [isSome_find?_increment]
    exact h.counter t htseen l hl
  unseen t hrow l hl := by
    rw [row?_increment] at hrow
    rw [labels_increment] at hl
    -- The counter that grows belongs to `s`, which has been seen.
    have hother : (m.labels s)[bucketIndex m.bounds.values d]? ≠ some l := by
      intro hbucket
      rw [series_eq_of_mem_labels (List.mem_of_getElem? hbucket) hl, hrow] at hseen
      cases hseen
    rw [value_increment_labels h hseen, if_neg hother]
    exact h.unseen t hrow l hl

/-! ### Recording -/

theorem record_eq (h : m.Proper) (x : Sample) :
    m.record x = (m.makeRow x.series).2.increment ((m.makeRow x.series).2.labels x.series)
      x.duration := by
  rw [labels_makeRow, ← h.makeRow_fst]
  rfl

theorem isSome_row?_makeRow (m : CounterMatrix) (s : Series) :
    ((m.makeRow s).2.row? s).isSome := by
  rw [row?_makeRow, if_pos rfl]
  rfl

theorem Proper.record (h : m.Proper) (x : Sample) : (m.record x).Proper := by
  rw [record_eq h]
  exact (h.makeRow x.series).increment (isSome_row?_makeRow m x.series) x.duration

theorem bounds_record (m : CounterMatrix) (x : Sample) : (m.record x).bounds = m.bounds :=
  (bounds_increment _ _ _).trans (bounds_makeRow _ _)

theorem labels_record (m : CounterMatrix) (x : Sample) (s : Series) :
    (m.record x).labels s = m.labels s := by
  rw [labels, intervals, bounds_record]
  rfl

theorem value_record (h : m.Proper) (x : Sample) (l : Labels) :
    (m.record x).family.value l =
      if (m.labels x.series)[bucketIndex m.bounds.values x.duration]? = some l then
        m.family.value l + 1
      else m.family.value l := by
  rw [record_eq h, value_increment_labels (h.makeRow x.series) (isSome_row?_makeRow m x.series),
    value_makeRow, labels_makeRow, bounds_makeRow]

/-- A recorded sample adds one to the count of its series and its bucket, and to
no other. -/
theorem count_record (h : m.Proper) (x : Sample) (s : Series) (i : Nat) :
    (m.record x).count s i =
      if s = x.series ∧ i = bucketIndex m.bounds.values x.duration then m.count s i + 1
      else m.count s i := by
  rw [(h.record x).count_eq, h.count_eq, labels_record]
  have hbucket : bucketIndex m.bounds.values x.duration < (m.labels x.series).length := by
    rw [length_labels]
    exact bucketIndex_lt m.bounds x.duration
  have hx := List.getElem?_eq_getElem hbucket
  cases hl : (m.labels s)[i]? with
  | none =>
    have hother : ¬(s = x.series ∧ i = bucketIndex m.bounds.values x.duration) := by
      rintro ⟨rfl, rfl⟩
      cases hl.symm.trans hx
    rw [if_neg hother]
    rfl
  | some l =>
    show (m.record x).family.value l = if _ then m.family.value l + 1 else m.family.value l
    rw [value_record h]
    refine if_congr ?_ rfl rfl
    constructor
    · -- Equal labels are of the same series, and in its row they stand only once.
      intro hsame
      obtain rfl := series_eq_of_mem_labels (List.mem_of_getElem? hsame) (List.mem_of_getElem? hl)
      refine ⟨rfl, ?_⟩
      obtain ⟨hi, hil⟩ := List.getElem?_eq_some_iff.mp hl
      obtain ⟨hj, hjl⟩ := List.getElem?_eq_some_iff.mp hsame
      exact (m.nodup_labels _).getElem_inj_iff.mp (hil.trans hjl.symm)
    · rintro ⟨rfl, rfl⟩
      exact hl

theorem Proper.foldl_record (h : m.Proper) (xs : List Sample) :
    (xs.foldl CounterMatrix.record m).Proper := by
  induction xs generalizing m with
  | nil => exact h
  | cons x xs ih => exact ih (h.record x)

theorem bounds_foldl_record (m : CounterMatrix) (xs : List Sample) :
    (xs.foldl record m).bounds = m.bounds := by
  induction xs generalizing m with
  | nil => rfl
  | cons x xs ih => rw [List.foldl_cons, ih, bounds_record]

/-- How many of some samples fall into a bucket of a series. -/
def tally (bounds : Bounds) (xs : List Sample) (s : Series) (i : Nat) : Nat :=
  xs.countP fun x => s = x.series ∧ i = bucketIndex bounds.values x.duration

theorem tally_perm (bounds : Bounds) {xs ys : List Sample} (h : xs.Perm ys) (s : Series) (i : Nat) :
    tally bounds xs s i = tally bounds ys s i :=
  h.countP_eq _

theorem tally_append (bounds : Bounds) (xs ys : List Sample) (s : Series) (i : Nat) :
    tally bounds (xs ++ ys) s i = tally bounds xs s i + tally bounds ys s i :=
  List.countP_append

theorem tally_cons (bounds : Bounds) (x : Sample) (xs : List Sample) (s : Series) (i : Nat) :
    tally bounds (x :: xs) s i = tally bounds xs s i +
      if s = x.series ∧ i = bucketIndex bounds.values x.duration then 1 else 0 := by
  unfold tally
  rw [List.countP_cons]
  simp only [decide_eq_true_eq]

theorem count_foldl_record (h : m.Proper) (xs : List Sample) (s : Series) (i : Nat) :
    (xs.foldl record m).count s i = m.count s i + UInt64.ofNat (tally m.bounds xs s i) := by
  induction xs generalizing m with
  | nil => exact (UInt64.add_zero _).symm
  | cons x xs ih =>
    rw [List.foldl_cons, ih (h.record x), bounds_record, count_record h, tally_cons]
    split
    · rw [UInt64.ofNat_add, UInt64.add_assoc, UInt64.add_comm 1]
      rfl
    · rw [Nat.add_zero]

end CounterMatrix

end ExecutionLink
