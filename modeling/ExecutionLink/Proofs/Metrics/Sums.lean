/-
The counters of a matrix add up to what was recorded.

Counters are 64-bit numbers, but they are added up here as natural numbers
(`CounterFamily.sum`).  A counter is never greater than the sum of all of them, so
nothing wraps around as long as that sum fits in 64 bits.

* `CounterMatrix.sum_foldl_record` — the counters of some series have grown, all
  buckets together, by the number of samples of those series.
-/
import ExecutionLink.Proofs.Metrics.Canonical
import ExecutionLink.Proofs.Metrics.Exposition
import Mathlib.Algebra.Order.BigOperators.Group.List

namespace ExecutionLink

theorem Table.perm_insertNew {κ ν : Type} [DecidableEq κ] [LT κ] [DecidableLT κ] {k : κ}
    {es : List (κ × ν)} (h : es.lookup k = none) (v : ν) :
    (insertNew k v es).Perm ((k, v) :: es) := by
  induction es with
  | nil => exact .refl _
  | cons e es ih =>
    rw [lookup_cons_ite] at h
    have hne : k ≠ e.1 := by
      intro hk
      rw [if_pos hk] at h
      cases h
    rw [if_neg hne] at h
    rw [insertNew, if_neg hne]
    split
    · exact .refl _
    · exact ((ih h).cons e).trans (.swap _ _ _)

/-! ### Families -/

namespace CounterFamily

/-- The sum of the counters whose labels are chosen. -/
def sum (f : CounterFamily) (chosen : Labels → Bool) : Nat :=
  ((f.counters.entries.filter fun e => chosen e.1).map fun e => e.2.toNat).sum

variable {f : CounterFamily} {chosen : Labels → Bool}

theorem sum_cons (l : Labels) (v : UInt64) (es : List (Labels × UInt64)) :
    sum ⟨⟨(l, v) :: es⟩⟩ chosen = (if chosen l then v.toNat else 0) + sum ⟨⟨es⟩⟩ chosen := by
  unfold sum
  rw [List.filter_cons]
  split
  · rw [List.map_cons, List.sum_cons]
  · rw [Nat.zero_add]

theorem sum_perm {es es' : List (Labels × UInt64)} (h : es.Perm es') :
    sum ⟨⟨es⟩⟩ chosen = sum ⟨⟨es'⟩⟩ chosen :=
  ((h.filter _).map _).sum_nat

/-- A new counter adds nothing. -/
theorem sum_withCounter (f : CounterFamily) (l : Labels) :
    (f.withCounter l).sum chosen = f.sum chosen := by
  unfold withCounter Table.ensure
  split
  · rfl
  · rename_i hnone
    rw [sum_perm (Table.perm_insertNew hnone 0), sum_cons]
    show (if chosen l then 0 else 0) + f.sum chosen = _
    rw [ite_self, Nat.zero_add]

theorem sum_foldl_withCounter (row : Row) (f : CounterFamily) :
    (row.foldl withCounter f).sum chosen = f.sum chosen := by
  induction row generalizing f with
  | nil => rfl
  | cons l row ih => rw [List.foldl_cons, ih, sum_withCounter]

theorem toNat_le_sum (h : f.counters.Sorted) {l : Labels} {v : UInt64}
    (hl : f.counters.find? l = some v) : v.toNat ≤ f.sum fun _ => true := by
  have hmem : (l, v) ∈ f.counters.entries := (Table.mem_entries_iff h.nodup_keys l v).mpr hl
  unfold sum
  rw [List.filter_true]
  exact List.le_sum_of_mem (List.mem_map_of_mem hmem)

/-- A counter that grows adds one, if it is chosen. -/
theorem sum_increment (h : f.counters.Sorted) {l : Labels} {v : UInt64}
    (hl : f.counters.find? l = some v) (hfits : v.toNat + 1 < UInt64.size) :
    (f.increment l).sum chosen = f.sum chosen + if chosen l then 1 else 0 := by
  obtain ⟨⟨es⟩⟩ := f
  show sum ⟨⟨es.map _⟩⟩ chosen = sum ⟨⟨es⟩⟩ chosen + _
  have hlookup : es.lookup l = some v := hl
  induction es with
  | nil => cases hlookup
  | cons e es ih =>
    obtain ⟨k, w⟩ := e
    obtain ⟨hk, hes⟩ := List.pairwise_cons.mp h
    rw [Table.lookup_cons_ite] at hlookup
    rw [List.map_cons, sum_cons]
    by_cases heq : l = k
    · rw [if_pos heq] at hlookup
      obtain rfl := Option.some.inj hlookup
      subst heq
      -- the other counters are under other labels
      have hothers : (es.map fun e => if e.1 = l then (e.1, e.2 + 1) else e) = es.map id := by
        refine List.map_congr_left fun e he => if_neg fun heq => ?_
        exact irrefl_of (· < ·) l (heq ▸ hk e he)
      have hgrown : (w + 1).toNat = w.toNat + 1 := by
        rw [UInt64.toNat_add]
        exact Nat.mod_eq_of_lt hfits
      rw [if_pos rfl, sum_cons, hothers, List.map_id, hgrown]
      split <;> omega
    · rw [if_neg heq] at hlookup
      rw [if_neg (Ne.symm heq), sum_cons, ih hes hlookup hlookup, Nat.add_assoc]

/-- What is read is added up like the counters that were written. -/
theorem total_map_readingOf (f : CounterFamily) (name method outcome : String) :
    Exposition.total (f.counters.entries.map (Exposition.readingOf name)) name method outcome =
      f.sum fun l => l.method = method ∧ l.outcome = outcome := by
  unfold Exposition.total sum
  rw [List.filter_map, List.map_map]
  congr 2
  refine List.filter_congr fun e _ => ?_
  show decide (name = name ∧ some e.1.method = some method ∧ some e.1.outcome = some outcome) = _
  simp

theorem sum_map_readingOf (f : CounterFamily) (name : String) :
    ((f.counters.entries.map (Exposition.readingOf name)).map (·.value.toNat)).sum =
      f.sum fun _ => true := by
  rw [sum, List.filter_true, List.map_map]
  rfl

end CounterFamily

/-! ### Matrices -/

namespace CounterMatrix

variable {m : CounterMatrix} {chosen : Labels → Bool} {series : Series → Bool}

theorem sum_makeRow (m : CounterMatrix) (s : Series) :
    (m.makeRow s).2.family.sum chosen = m.family.sum chosen := by
  unfold makeRow
  cases m.row? s with
  | none => exact CounterFamily.sum_foldl_withCounter _ _
  | some row => rfl

/-- The labels that are chosen are those of the chosen series. -/
def Chooses (m : CounterMatrix) (chosen : Labels → Bool) (series : Series → Bool) : Prop :=
  ∀ s, ∀ l ∈ m.labels s, chosen l = series s

theorem sum_record (h : m.Tidy) (hchosen : m.Chooses chosen series) (x : Sample)
    (hfits : m.family.sum (fun _ => true) + 1 < UInt64.size) :
    (m.record x).family.sum chosen =
      m.family.sum chosen + if series x.series then 1 else 0 := by
  have htidy := h.makeRow x.series
  have hseen := isSome_row?_makeRow m x.series
  -- the bucket of the sample has a counter, which is no greater than the sum
  obtain ⟨l, hl⟩ : ∃ l, (m.labels x.series)[bucketIndex m.bounds.values x.duration]? = some l :=
    ⟨_, List.getElem?_eq_getElem (by
      rw [length_labels]
      exact bucketIndex_lt m.bounds x.duration)⟩
  have hmem : l ∈ m.labels x.series := List.mem_of_getElem? hl
  have hcounter := htidy.counter x.series hseen l (by rwa [labels_makeRow])
  obtain ⟨v, hv⟩ := Option.isSome_iff_exists.mp hcounter
  have hle := CounterFamily.toNat_le_sum htidy.counters hv
  rw [sum_makeRow] at hle
  have hrecord : (m.record x).family = (m.makeRow x.series).2.family.increment l := by
    rw [record_eq h.toProper, increment, labels_makeRow, bounds_makeRow, hl]
  rw [hrecord, CounterFamily.sum_increment htidy.counters hv (by omega), sum_makeRow,
    hchosen x.series l hmem]

theorem sum_foldl_record (h : m.Tidy) (hchosen : m.Chooses chosen series) (xs : List Sample)
    (hfits : m.family.sum (fun _ => true) + xs.length < UInt64.size) :
    (xs.foldl record m).family.sum chosen =
      m.family.sum chosen + xs.countP fun x => series x.series := by
  induction xs generalizing m with
  | nil => rfl
  | cons x xs ih =>
    rw [List.length_cons] at hfits
    have hchosen' : (m.record x).Chooses chosen series := by
      intro s l hl
      rw [labels_record] at hl
      exact hchosen s l hl
    have hall : (m.record x).family.sum (fun _ => true) = m.family.sum (fun _ => true) + _ :=
      sum_record h (show m.Chooses _ fun _ => true from fun _ _ _ => rfl) x (by omega)
    rw [if_pos rfl] at hall
    rw [List.foldl_cons, ih (h.record x) hchosen' (by omega),
      sum_record h hchosen x (by omega), List.countP_cons]
    omega

end CounterMatrix

end ExecutionLink
