/-
The text of the metrics is another form of the snapshot.

* `Exposition.Shows` — a text shows a snapshot if what is read from it are the counts of
  all its buckets, once each, in the order of the bytes of their labels.
* `CounterMatrix.Tidy.shows` — the text of a matrix shows its snapshot.
* `CounterMatrix.Tidy.text_eq_iff` — of matrices that were set up alike, the texts are
  equal exactly if the snapshots are.
* `MetricsRegistry.text_canonical` — there is one text for each snapshot, and the order in
  which samples were recorded cannot be told from it.
-/
import ExecutionLink.Metrics.Page
import ExecutionLink.Metrics.Writing
import ExecutionLink.Proofs.Metrics.Histogram
import ExecutionLink.Proofs.Metrics.Labels
import ExecutionLink.Proofs.Metrics.Registered
import ExecutionLink.Proofs.Metrics.Snapshot
import ExecutionLink.Proofs.Text.ByteOrder

namespace ExecutionLink

/-! ### What a text is to show -/

namespace Exposition

/-- The bytes of the labels of a sample, the way samples are ordered. -/
def Reading.labelBytes (r : Reading) : List (List UInt8) :=
  ["interval", "method", "outcome"].map fun name => Text.utf8 ((r.label? name).getD "")

/-- What is to be read of a snapshot: of each series, the count of each bucket under the
label of the bucket. -/
def readingsOf (name : String) (intervals : List String)
    (snapshot : List (Series × List UInt64)) : List Reading :=
  snapshot.flatMap fun (s, counts) => (intervals.zip counts).map fun (interval, count) =>
    ⟨name, [("interval", interval), ("method", s.method), ("outcome", s.outcome.label)], count⟩

/-- A text shows a snapshot if what is read from it are the counts of all its buckets,
once each, in the order of the bytes of their labels. -/
def Shows (text name : String) (intervals : List String)
    (snapshot : List (Series × List UInt64)) : Prop :=
  ∃ readings, readSamples text = some readings ∧
    readings.Perm (readingsOf name intervals snapshot) ∧
    readings.Pairwise fun a b => a.labelBytes < b.labelBytes

theorem labelBytes_readingOf (name : String) (counter : Labels × UInt64) :
    (readingOf name counter).labelBytes = [Text.utf8 counter.1.interval,
      Text.utf8 counter.1.method, Text.utf8 counter.1.outcome] :=
  rfl

theorem labelBytes_lt (name : String) {a b : Labels × UInt64} (h : a.1 < b.1) :
    (readingOf name a).labelBytes < (readingOf name b).labelBytes := by
  rw [labelBytes_readingOf, labelBytes_readingOf]
  rcases h with hinterval | ⟨hinterval, hmethod | ⟨hmethod, houtcome⟩⟩
  · exact .rel (Text.utf8_lt_utf8 hinterval)
  · rw [hinterval]
    exact .cons (.rel (Text.utf8_lt_utf8 hmethod))
  · rw [hinterval, hmethod]
    exact .cons (.cons (.rel (Text.utf8_lt_utf8 houtcome)))

theorem readingOf_injective (name : String) {a b : Labels × UInt64}
    (h : readingOf name a = readingOf name b) : a = b := by
  obtain ⟨⟨_, _, _⟩, _⟩ := a
  obtain ⟨⟨_, _, _⟩, _⟩ := b
  simpa [readingOf, labelsByName, and_assoc] using h

end Exposition

open Exposition

/-! ### What the text of a matrix shows -/

namespace CounterMatrix

variable {m m' : CounterMatrix}

theorem Tidy.readingsOf_snapshot (h : m.Tidy) :
    readingsOf m.name m.intervalLabels m.snapshot =
      (m.rows.entries.flatMap Prod.snd).map fun l => readingOf m.name (l, m.family.value l) := by
  rw [readingsOf, snapshot, List.flatMap_map, List.map_flatMap]
  refine List.flatMap_congr fun e he => ?_
  have hrow : e.2 = m.labels e.1 := h.row e.1 e.2 ((h.mem_rows e.1 e.2).mp he)
  show (m.intervalLabels.zip (m.counts e.2)).map _ = _
  rw [hrow, counts, labels, intervalLabels, List.map_map, List.zip_map', List.map_map, List.map_map]
  rfl

theorem Tidy.shows (h : m.Tidy) (hname : isMetricName m.name) :
    Shows (text m) m.name m.intervalLabels m.snapshot := by
  refine ⟨_, readSamples_text hname, ?_, ?_⟩
  · have hperm := h.entries_perm.map (readingOf m.name)
    rw [List.map_map] at hperm
    rw [h.readingsOf_snapshot]
    exact hperm
  · exact List.pairwise_map.mpr (h.counters.imp fun hlt => labelBytes_lt m.name hlt)

/-- Matrices that were set up alike are equal if their texts are. -/
theorem Tidy.eq_of_text (h : m.Tidy) (h' : m'.Tidy) (halike : Alike m m')
    (hname : isMetricName m.name) (htext : text m = text m') : m = m' := by
  have hname' : isMetricName m'.name := by rwa [← halike.name]
  have hread := readSamples_text hname
  have hread' := readSamples_text hname'
  rw [htext, hread', ← halike.name, Option.some.injEq] at hread
  have hentries : m'.family.counters.entries = m.family.counters.entries :=
    List.map_injective_iff.mpr (fun _ _ => readingOf_injective m.name) hread
  exact h.eq_of_family h' halike (congrArg (fun es => CounterFamily.mk ⟨es⟩) hentries.symm)

theorem Tidy.text_eq_empty_iff (h : m.Tidy) (hname : isMetricName m.name) :
    text m = "" ↔ m.snapshot = [] := by
  constructor
  · intro htext
    have hread := readSamples_text hname
    rw [htext] at hread
    have hentries : m.family.counters.entries = [] := by
      have hnil : some [] = some (m.family.counters.entries.map (readingOf m.name)) := hread
      exact (List.map_eq_nil_iff.mp (Option.some.inj hnil).symm)
    refine List.eq_nil_iff_forall_not_mem.mpr ?_
    rintro ⟨s, counts⟩ hmem
    -- a series that was seen has counters
    obtain ⟨l, -, hl⟩ := (h.isSome_row?_iff_counter s).mp ((h.mem_snapshot s counts).mp hmem).1
    rw [Table.find?, hentries] at hl
    cases hl
  · intro hsnapshot
    have hrows : m.rows.entries = [] := List.map_eq_nil_iff.mp hsnapshot
    have hperm := h.entries_perm
    rw [hrows] at hperm
    have hlines : lines m = [] := by rw [lines, hperm.eq_nil]
    rw [text, hlines]
    rfl

/-- Of matrices that were set up alike, the texts are equal exactly if the snapshots are. -/
theorem Tidy.text_eq_iff (h : m.Tidy) (h' : m'.Tidy) (halike : Alike m m')
    (hname : isMetricName m.name) : text m = text m' ↔ m.snapshot = m'.snapshot := by
  constructor
  · intro htext
    rw [h.eq_of_text h' halike hname htext]
  · intro hsnapshot
    rw [h.eq_of_snapshot h' halike hsnapshot]

/-! ### Recorded samples in a snapshot -/

section Recorded

variable {name help : String} {bounds : List UInt64} (hnew : new name help bounds = .ok m)
  (xs : List Sample)
include hnew

theorem snapshot_eq_nil_iff : (xs.foldl record m).snapshot = [] ↔ xs = [] := by
  have h : (xs.foldl record m).Tidy := (tidy_of_new hnew).foldl_record xs
  have hmem (s : Series) : s ∈ (xs.foldl record m).snapshot.map Prod.fst ↔
      s ∈ xs.map Sample.series := by
    rw [← h.isSome_row?_iff_mem, isSome_row?_recorded hnew]
  constructor
  · intro hnil
    have hnone : xs.map Sample.series = [] :=
      List.eq_nil_iff_forall_not_mem.mpr fun s hs => by
        rw [← hmem, hnil] at hs
        cases hs
    exact List.map_eq_nil_iff.mp hnone
  · rintro rfl
    rw [eq_of_new hnew]
    rfl

theorem mem_snapshot_recorded (hfew : xs.length < UInt64.size) (s : Series)
    (counts : List UInt64) :
    (s, counts) ∈ (xs.foldl record m).snapshot ↔ s ∈ xs.map Sample.series ∧
      counts.map UInt64.toNat = (List.range m.bucketCount).map fun i =>
        xs.countP fun x => x.series = s ∧ FallsInto m.bounds.values i x.duration := by
  have h : (xs.foldl record m).Tidy := (tidy_of_new hnew).foldl_record xs
  have htallies : (List.range m.bucketCount).map (tally m.bounds xs s) =
      (List.range m.bucketCount).map fun i =>
        xs.countP fun x => x.series = s ∧ FallsInto m.bounds.values i x.duration := by
    refine List.map_congr_left fun i hi => tally_eq_countP m.bounds xs s ?_
    rw [List.mem_range, bucketCount, intervals, m.bounds.length_intervals] at hi
    exact Nat.le_of_lt_succ hi
  have hinjective : Function.Injective (List.map UInt64.toNat) :=
    List.map_injective_iff.mpr fun _ _ => UInt64.toNat_inj.mp
  rw [h.mem_snapshot, isSome_row?_recorded hnew, (alike_foldl_record m xs).bucketCount_eq,
    ← htallies, ← map_toNat_recorded hnew xs hfew, hinjective.eq_iff]

theorem toNat_le_length (hfew : xs.length < UInt64.size) {e : Series × List UInt64}
    (he : e ∈ (xs.foldl record m).snapshot) {count : UInt64} (hcount : count ∈ e.2) :
    count.toNat ≤ xs.length := by
  have hcounts := ((mem_snapshot_recorded hnew xs hfew e.1 e.2).mp he).2
  have hmem : count.toNat ∈ e.2.map UInt64.toNat := List.mem_map_of_mem hcount
  rw [hcounts] at hmem
  obtain ⟨i, -, heq⟩ := List.mem_map.mp hmem
  rw [← heq]
  exact List.countP_le_length

end Recorded

end CounterMatrix

/-! ### The main result -/

namespace MetricsRegistry

variable {r : MetricsRegistry}

/-- However many samples are recorded, as long as their number is exact in the text, the
text can be written, and it is the body of the page.  It is empty if nothing was recorded,
and shows the snapshot otherwise, which has the count of every bucket of every series that
was recorded.  Two texts are equal exactly if the snapshots are, and so are those of the
same samples in another order. -/
theorem text_canonical (hr : empty.registerBuilder = .ok r) (xs : List Sample)
    (hfew : xs.length < Nat.pow 2 53) :
    let after (zs : List Sample) := zs.foldl record r
    ∃ m, (after xs).matrix = some m ∧
      write (after xs).gather = .ok (after xs).render ∧
      MetricsPage.reply (after xs) "GET" MetricsPage.path =
        { status := 200
          contentType := some MetricsPage.contentType
          body := (after xs).render } ∧
      ((after xs).render = "" ↔ xs = []) ∧
      Shows (after xs).render CounterMatrix.builderName m.intervalLabels m.snapshot ∧
      (m.snapshot.map Prod.fst).Nodup ∧
      (∀ s counts, (s, counts) ∈ m.snapshot ↔ s ∈ xs.map Sample.series ∧
        counts.map UInt64.toNat = (List.range m.intervalLabels.length).map fun i =>
          xs.countP fun x => x.series = s ∧ FallsInto CounterMatrix.builderBounds i x.duration) ∧
      (∀ e ∈ m.snapshot, ∀ count ∈ e.2, count.toNat < Nat.pow 2 53) ∧
      ∀ ys : List Sample, ys.length < Nat.pow 2 53 →
        ((after xs).render = (after ys).render ↔
          (after xs).matrix.map CounterMatrix.snapshot =
            (after ys).matrix.map CounterMatrix.snapshot) ∧
        (xs.Perm ys → (after xs).render = (after ys).render) := by
  intro after
  have hnew := CounterMatrix.builderRequests_eq
  -- the builder's counters are the only ones, so the text is theirs
  have hmatrices (zs : List Sample) :
      (after zs).matrices = [zs.foldl CounterMatrix.record .builderCounters] :=
    matrices_foldl_record_singleton (matrices_of_registerBuilder hr) rfl zs
  have hmatrix (zs : List Sample) :
      (after zs).matrix = some (zs.foldl CounterMatrix.record .builderCounters) := by
    rw [matrix, family?_eq_some_iff, hmatrices]
    exact ⟨List.mem_singleton_self _, (CounterMatrix.alike_foldl_record _ zs).name⟩
  have hrender (zs : List Sample) :
      (after zs).render = text (zs.foldl CounterMatrix.record .builderCounters) :=
    render_of_matrices (hmatrices zs)
  have htidy (zs : List Sample) : (zs.foldl CounterMatrix.record .builderCounters).Tidy :=
    (CounterMatrix.tidy_of_new hnew).foldl_record zs
  have halike (zs : List Sample) : CounterMatrix.Alike
      (zs.foldl CounterMatrix.record .builderCounters) .builderCounters :=
    CounterMatrix.alike_foldl_record _ zs
  have hname : (xs.foldl CounterMatrix.record .builderCounters).name =
      CounterMatrix.builderName := (halike xs).name
  have hproper : isMetricName (xs.foldl CounterMatrix.record .builderCounters).name := by
    rw [hname]
    exact CounterMatrix.isMetricName_builderName
  have hbounds : CounterMatrix.builderCounters.bounds.values = CounterMatrix.builderBounds := rfl
  have hbuckets : (xs.foldl CounterMatrix.record .builderCounters).intervalLabels.length =
      CounterMatrix.builderCounters.bucketCount := by
    rw [CounterMatrix.intervalLabels, List.length_map]
    exact (halike xs).bucketCount_eq
  have hsize : xs.length < UInt64.size := Nat.lt_trans hfew (by decide)
  refine ⟨_, hmatrix xs, write_gather ?_, rfl, ?_, ?_, (htidy xs).nodup_snapshot,
    fun s counts => ?_, fun e he count hcount => ?_, fun ys _ => ?_⟩
  · rw [hmatrices, List.forall_mem_singleton, hname]
    decide
  · rw [hrender, (htidy xs).text_eq_empty_iff hproper, CounterMatrix.snapshot_eq_nil_iff hnew]
  · rw [hrender, ← hname]
    exact (htidy xs).shows hproper
  · rw [CounterMatrix.mem_snapshot_recorded hnew xs hsize, hbuckets, hbounds]
  · exact Nat.lt_of_le_of_lt (CounterMatrix.toNat_le_length hnew xs hsize he hcount) hfew
  · rw [hrender, hrender, hmatrix, hmatrix]
    refine ⟨?_, fun hperm => ?_⟩
    · rw [(htidy xs).text_eq_iff (htidy ys) ((halike xs).trans (halike ys).symm) hproper]
      exact Option.some_inj.symm
    · rw [CounterMatrix.foldl_record_perm (CounterMatrix.tidy_of_new hnew) hperm]

/-- Methods with line breaks, quotes, backslashes and braces in their names: what is read
are the eight buckets of each, and the samples may as well come the other way round. -/
theorem text_canonical_escapes :
    ∃ r m readings, empty.registerBuilder = .ok r ∧
      let xs : List Sample := [⟨⟨"a\"b\n\\", .success⟩, 450⟩, ⟨⟨"é\x7b\x7d=,", .error⟩, 5001⟩]
      (xs.foldl record r).matrix = some m ∧
        readSamples (xs.foldl record r).render = some readings ∧
        readings.Perm (readingsOf "beacon_builder_requests_total" m.intervalLabels
          [(⟨"a\"b\n\\", .success⟩, [0, 0, 1, 0, 0, 0, 0, 0]),
            (⟨"é\x7b\x7d=,", .error⟩, [0, 0, 0, 0, 0, 0, 0, 1])]) ∧
        (xs.foldl record r).render ≠ "" ∧
        (xs.foldl record r).render = (xs.reverse.foldl record r).render := by
  have hr : empty.registerBuilder = .ok _ := rfl
  obtain ⟨m, hm, -, -, hempty, ⟨readings, hread, hperm, -⟩, -, -, -, hruns⟩ := text_canonical hr
    [⟨⟨"a\"b\n\\", .success⟩, 450⟩, ⟨⟨"é\x7b\x7d=,", .error⟩, 5001⟩] (by decide)
  have hsnapshot : m.snapshot = [(⟨"a\"b\n\\", .success⟩, [0, 0, 1, 0, 0, 0, 0, 0]),
      (⟨"é\x7b\x7d=,", .error⟩, [0, 0, 0, 0, 0, 0, 0, 1])] := by
    obtain rfl := Option.some.inj hm
    rfl
  rw [hsnapshot] at hperm
  obtain ⟨-, hreorder⟩ := hruns [⟨⟨"é\x7b\x7d=,", .error⟩, 5001⟩, ⟨⟨"a\"b\n\\", .success⟩, 450⟩]
    (by decide)
  exact ⟨_, m, readings, hr, hm, hread, hperm, fun h => List.cons_ne_nil _ _ (hempty.mp h),
    hreorder (List.Perm.swap _ _ _)⟩

end MetricsRegistry

end ExecutionLink
