/-
A snapshot is all there is to know of a matrix.

* `CounterMatrix.Tidy.mem_snapshot` — a snapshot has the counts of the series that were
  seen, bucket by bucket.
* `CounterMatrix.Tidy.entries_perm` — the counters are those of the buckets of these
  series, one each.
* `CounterMatrix.Tidy.eq_of_snapshot`, `CounterMatrix.Tidy.eq_of_family` — matrices that
  were set up alike are equal if they have the same snapshot, or the same counters.
-/
import ExecutionLink.Proofs.Metrics.Canonical

namespace ExecutionLink.CounterMatrix

variable {m m' : CounterMatrix}

/-! ### What is in a snapshot -/

theorem bucketCount_pos (m : CounterMatrix) : 0 < m.bucketCount := by
  rw [bucketCount, intervals, Bounds.length_intervals]
  exact Nat.succ_pos _

theorem Proper.counts_labels (h : m.Proper) (s : Series) :
    m.counts (m.labels s) = (List.range m.bucketCount).map (m.count s) := by
  refine List.ext_getElem ?_ fun i hi hi' => ?_
  · rw [counts, List.length_map, List.length_map, List.length_range, length_labels]
  · have hl : i < (m.labels s).length := by rwa [counts, List.length_map] at hi
    have hcount : m.count s i = m.family.value (m.labels s)[i] := by
      rw [h.count_eq, List.getElem?_eq_getElem hl]
      rfl
    rw [List.getElem_map, List.getElem_range, hcount]
    exact List.getElem_map _

theorem Tidy.mem_rows (h : m.Tidy) (s : Series) (row : Row) :
    (s, row) ∈ m.rows.entries ↔ m.row? s = some row :=
  Table.mem_entries_iff h.rows.nodup_keys s row

theorem Tidy.mem_snapshot (h : m.Tidy) (s : Series) (counts : List UInt64) :
    (s, counts) ∈ m.snapshot ↔
      (m.row? s).isSome ∧ counts = (List.range m.bucketCount).map (m.count s) := by
  rw [snapshot, List.mem_map]
  constructor
  · rintro ⟨⟨t, row⟩, hmem, heq⟩
    obtain ⟨rfl, rfl⟩ := Prod.mk.inj heq
    have hrow := (h.mem_rows t row).mp hmem
    refine ⟨Option.isSome_of_eq_some hrow, ?_⟩
    rw [h.row t row hrow, h.toProper.counts_labels]
  · rintro ⟨hseen, rfl⟩
    obtain ⟨row, hrow⟩ := Option.isSome_iff_exists.mp hseen
    refine ⟨(s, row), (h.mem_rows s row).mpr hrow, ?_⟩
    show (s, m.counts row) = _
    rw [h.row s row hrow, h.toProper.counts_labels]

theorem Tidy.nodup_rows (h : m.Tidy) : (m.rows.entries.map Prod.fst).Nodup :=
  h.rows.nodup_keys

theorem map_fst_snapshot (m : CounterMatrix) :
    m.snapshot.map Prod.fst = m.rows.entries.map Prod.fst := by
  rw [snapshot, List.map_map]
  rfl

theorem Tidy.nodup_snapshot (h : m.Tidy) : (m.snapshot.map Prod.fst).Nodup := by
  rw [map_fst_snapshot]
  exact h.nodup_rows

/-! ### The counters of the rows -/

/-- Labels stand in one place of one row only. -/
theorem Tidy.nodup_flatMap_rows (h : m.Tidy) : (m.rows.entries.flatMap Prod.snd).Nodup := by
  have hlabels : ∀ e ∈ m.rows.entries, e.2 = m.labels e.1 := fun e he =>
    h.row e.1 e.2 ((h.mem_rows e.1 e.2).mp he)
  refine List.nodup_flatMap.mpr ⟨fun e he => ?_, ?_⟩
  · rw [hlabels e he]
    exact m.nodup_labels e.1
  · refine (List.pairwise_map.mp h.nodup_rows).imp_of_mem fun {e f} he hf hne l hle hlf => ?_
    rw [hlabels e he] at hle
    rw [hlabels f hf] at hlf
    exact hne (series_eq_of_mem_labels hle hlf)

theorem Tidy.mem_entries (h : m.Tidy) (l : Labels) (v : UInt64) :
    (l, v) ∈ m.family.counters.entries ↔
      l ∈ m.rows.entries.flatMap Prod.snd ∧ v = m.family.value l := by
  rw [Table.mem_entries_iff h.counters.nodup_keys]
  show m.family.counters.find? l = some v ↔ _
  have hfound : (m.family.counters.find? l).isSome ↔ l ∈ m.rows.entries.flatMap Prod.snd := by
    rw [List.mem_flatMap]
    constructor
    · intro hl
      obtain ⟨s, hseen, hmem⟩ := h.owned l hl
      obtain ⟨row, hrow⟩ := Option.isSome_iff_exists.mp hseen
      refine ⟨(s, row), (h.mem_rows s row).mpr hrow, ?_⟩
      rw [h.row s row hrow]
      exact hmem
    · rintro ⟨⟨s, row⟩, hmem, hl⟩
      have hrow := (h.mem_rows s row).mp hmem
      rw [h.row s row hrow] at hl
      exact h.counter s (Option.isSome_of_eq_some hrow) l hl
  rw [← hfound, CounterFamily.value]
  cases m.family.counters.find? l <;> simp [eq_comm]

/-- There is a counter for each label of each row, and no other. -/
theorem Tidy.entries_perm (h : m.Tidy) :
    m.family.counters.entries.Perm
      ((m.rows.entries.flatMap Prod.snd).map fun l => (l, m.family.value l)) := by
  have hnodup := h.nodup_flatMap_rows.map (f := fun l => (l, m.family.value l))
    fun _ _ heq => (Prod.mk.inj heq).1
  refine (List.perm_ext_iff_of_nodup h.counters.nodup hnodup).mpr ?_
  rintro ⟨l, v⟩
  rw [h.mem_entries, List.mem_map]
  constructor
  · rintro ⟨hl, rfl⟩
    exact ⟨l, hl, rfl⟩
  · rintro ⟨l', hl', heq⟩
    obtain ⟨rfl, rfl⟩ := Prod.mk.inj heq
    exact ⟨hl', rfl⟩

/-! ### Equal matrices -/

theorem Alike.bucketCount_eq (h : Alike m m') : m.bucketCount = m'.bucketCount := by
  rw [bucketCount, bucketCount, intervals, intervals, h.bounds]

/-- Nothing is counted beyond the last bucket, or of a series that was not seen. -/
theorem Proper.count_eq_zero (h : m.Proper) {s : Series} {i : Nat}
    (hnone : m.row? s = none ∨ m.bucketCount ≤ i) : m.count s i = 0 := by
  rcases hnone with hnone | hbeyond
  · rw [count, hnone]
    rfl
  · rw [h.count_eq, List.getElem?_eq_none (by rwa [length_labels])]
    rfl

theorem Tidy.isSome_row?_iff_mem (h : m.Tidy) (s : Series) :
    (m.row? s).isSome ↔ s ∈ m.snapshot.map Prod.fst := by
  rw [List.mem_map]
  constructor
  · intro hseen
    exact ⟨(s, _), (h.mem_snapshot s _).mpr ⟨hseen, rfl⟩, rfl⟩
  · rintro ⟨⟨t, counts⟩, hmem, rfl⟩
    exact ((h.mem_snapshot t counts).mp hmem).1

/-- A series was seen if there is a counter for one of its buckets. -/
theorem Tidy.isSome_row?_iff_counter (h : m.Tidy) (s : Series) :
    (m.row? s).isSome ↔ ∃ l ∈ m.labels s, (m.family.counters.find? l).isSome := by
  constructor
  · intro hseen
    have hpos : 0 < (m.labels s).length := by
      rw [length_labels]
      exact m.bucketCount_pos
    exact ⟨_, List.getElem_mem hpos, h.counter s hseen _ (List.getElem_mem hpos)⟩
  · rintro ⟨l, hmem, hcounter⟩
    obtain ⟨t, hseen, htl⟩ := h.owned l hcounter
    rw [series_eq_of_mem_labels hmem htl]
    exact hseen

theorem Tidy.eq_of_snapshot (h : m.Tidy) (h' : m'.Tidy) (halike : Alike m m')
    (hsnapshot : m.snapshot = m'.snapshot) : m = m' := by
  have hseen (s : Series) : (m.row? s).isSome ↔ (m'.row? s).isSome := by
    rw [h.isSome_row?_iff_mem, h'.isSome_row?_iff_mem, hsnapshot]
  refine h.ext h' halike hseen fun s i => ?_
  by_cases hnone : m.row? s = none ∨ m.bucketCount ≤ i
  · have hnone' : m'.row? s = none ∨ m'.bucketCount ≤ i := by
      rw [← halike.bucketCount_eq]
      refine hnone.imp_left fun hrow => ?_
      rw [← Option.not_isSome_iff_eq_none, ← hseen s, Option.not_isSome_iff_eq_none]
      exact hrow
    rw [h.toProper.count_eq_zero hnone, h'.toProper.count_eq_zero hnone']
  · obtain ⟨hrow, hi⟩ := not_or.mp hnone
    -- the entry of the series is the same in both snapshots
    have hmem := (h.mem_snapshot s _).mpr ⟨Option.ne_none_iff_isSome.mp hrow, rfl⟩
    rw [hsnapshot, h'.mem_snapshot, ← halike.bucketCount_eq] at hmem
    exact List.map_inj_left.mp hmem.2 i (List.mem_range.mpr (Nat.lt_of_not_le hi))

theorem Tidy.eq_of_family (h : m.Tidy) (h' : m'.Tidy) (halike : Alike m m')
    (hfamily : m.family = m'.family) : m = m' := by
  refine h.ext h' halike (fun s => ?_) fun s i => ?_
  · rw [h.isSome_row?_iff_counter, h'.isSome_row?_iff_counter, halike.labels_eq, hfamily]
  · rw [h.toProper.count_eq, h'.toProper.count_eq, halike.labels_eq, hfamily]

end ExecutionLink.CounterMatrix
