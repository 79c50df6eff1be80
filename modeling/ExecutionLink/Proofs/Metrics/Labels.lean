/-
What the label of a bucket says of the durations in it.

A label is read as the interval that it writes (`Covers`): a square bracket takes in the
number next to it, a round one does not, and `+inf` is no limit at all.

* `Interval.covers_label` — the label of an interval covers what belongs to the interval.
* `Bounds.contains_iff` — of the intervals that bounds cut, a duration belongs to the one
  with its index and to no other, except that zero belongs to none if there are no bounds.
* `CounterMatrix.labels_truthful_iff` — so it is under a label that covers it that a
  sample is counted, with that one exception.
-/
import ExecutionLink.Proofs.Metrics.Buckets
import ExecutionLink.Proofs.Metrics.Canonical
import ExecutionLink.Proofs.Metrics.Exposition

namespace ExecutionLink

/-! ### Reading a label -/

/-- A label covers a number if the interval that it writes contains the number. -/
inductive Covers (n : Nat) : String → Prop where
  | closed {a b : Nat} : a ≤ n → n ≤ b → Covers n s!"[{a},{b}]"
  | halfOpen {a b : Nat} : a < n → n ≤ b → Covers n s!"({a},{b}]"
  | endless {a : Nat} : a < n → Covers n s!"({a},+inf)"

namespace Interval

open Text.Natural

/-- What stands before the comma of a label, and what stands after it. -/
theorem parts_of_label {i : Interval} {bracket : Char} {a : Nat} {tail : List Char}
    (hbracket : bracket ≠ ',')
    (h : i.label.toList = (bracket :: Nat.toDigits 10 a) ++ ',' :: tail) :
    opening i.lower? = bracket :: Nat.toDigits 10 a ∧ i.closing = tail := by
  have hcomma : ',' ∉ bracket :: Nat.toDigits 10 a := by
    rw [List.mem_cons]
    rintro (hc | hc)
    · exact hbracket hc.symm
    · exact notMem_toDigits (by decide) a hc
  obtain ⟨htake, hdrop⟩ := Exposition.takeWhile_ne_append hcomma tail
  obtain ⟨htake', hdrop'⟩ :=
    Exposition.takeWhile_ne_append (comma_notMem_opening i.lower?) i.closing
  rw [toList_label] at h
  rw [h] at htake' hdrop'
  exact ⟨htake'.symm.trans htake, (List.cons.inj (hdrop'.symm.trans hdrop)).2⟩

theorem opening_eq_square {l : Option UInt64} {a : Nat}
    (h : opening l = '[' :: Nat.toDigits 10 a) : l = none ∧ a = 0 := by
  cases l with
  | none => exact ⟨rfl, toDigits_injective (List.cons.inj h).2.symm⟩
  | some n => cases (List.cons.inj h).1

theorem opening_eq_round {l : Option UInt64} {a : Nat}
    (h : opening l = '(' :: Nat.toDigits 10 a) : ∃ n ∈ l, n.toNat = a := by
  cases l with
  | none => cases (List.cons.inj h).1
  | some n => exact ⟨n, rfl, toDigits_injective (List.cons.inj h).2⟩

/-- The bound that an interval reaches up to, if it has an end. -/
def upper? : Interval → Option UInt64
  | .upTo upper | .between _ upper => some upper
  | .above _ => none

theorem closing_eq_bound {i : Interval} {b : Nat}
    (h : i.closing = Nat.toDigits 10 b ++ [']']) : ∃ n ∈ i.upper?, n.toNat = b := by
  cases i with
  | upTo upper => exact ⟨upper, rfl, toDigits_injective (List.append_cancel_right h)⟩
  | between lower upper => exact ⟨upper, rfl, toDigits_injective (List.append_cancel_right h)⟩
  | above lower =>
    have hlast := congrArg List.getLast? h
    simp [closing] at hlast

theorem closing_eq_endless {i : Interval} (h : i.closing = "+inf)".toList) : i.upper? = none := by
  cases i with
  | above lower => rfl
  | _ =>
    have hlast := congrArg List.getLast? h
    simp [closing] at hlast

/-- What belongs to an interval is beyond its lower end and not beyond its upper one, as
far as it has them. -/
theorem contains_iff (i : Interval) (d : UInt64) :
    i.Contains d ↔ (∀ l ∈ i.lower?, l < d) ∧ ∀ u ∈ i.upper?, d ≤ u := by
  cases i <;> simp [Contains, lower?, upper?]

theorem contains_of_covers {i : Interval} {d : UInt64} (h : Covers d.toNat i.label) :
    i.Contains d := by
  rw [contains_iff]
  generalize hlabel : i.label = label at h
  have hchars := congrArg String.toList hlabel
  cases h with
  | @closed a b ha hb =>
    have hparts : i.label.toList = ('[' :: Nat.toDigits 10 a) ++ ',' :: (Nat.toDigits 10 b ++ [']']) := by
      simpa [toString] using hchars
    obtain ⟨hopening, hclosing⟩ := parts_of_label (by decide) hparts
    obtain ⟨hlower, -⟩ := opening_eq_square hopening
    obtain ⟨u, hu, rfl⟩ := closing_eq_bound hclosing
    rw [hlower, hu]
    simpa [UInt64.le_iff_toNat_le] using hb
  | @halfOpen a b ha hb =>
    have hparts : i.label.toList = ('(' :: Nat.toDigits 10 a) ++ ',' :: (Nat.toDigits 10 b ++ [']']) := by
      simpa [toString] using hchars
    obtain ⟨hopening, hclosing⟩ := parts_of_label (by decide) hparts
    obtain ⟨l, hl, rfl⟩ := opening_eq_round hopening
    obtain ⟨u, hu, rfl⟩ := closing_eq_bound hclosing
    rw [hl, hu]
    simpa [UInt64.le_iff_toNat_le, UInt64.lt_iff_toNat_lt] using And.intro ha hb
  | @endless a ha =>
    have hparts : i.label.toList = ('(' :: Nat.toDigits 10 a) ++ ',' :: "+inf)".toList := by
      simpa [toString] using hchars
    obtain ⟨hopening, hclosing⟩ := parts_of_label (by decide) hparts
    obtain ⟨l, hl, rfl⟩ := opening_eq_round hopening
    rw [hl, closing_eq_endless hclosing]
    simpa [UInt64.lt_iff_toNat_lt] using ha

theorem covers_of_contains {i : Interval} {d : UInt64} (h : i.Contains d) :
    Covers d.toNat i.label := by
  cases i with
  | upTo upper =>
    have hlabel : (upTo upper).label = s!"[{0},{upper.toNat}]" := by
      apply String.toList_injective
      simp [toList_label, lower?, opening, closing, toString]
    rw [hlabel]
    exact .closed (Nat.zero_le _) (UInt64.le_iff_toNat_le.mp h)
  | between lower upper =>
    exact .halfOpen (UInt64.lt_iff_toNat_lt.mp h.1) (UInt64.le_iff_toNat_le.mp h.2)
  | above lower => exact .endless (UInt64.lt_iff_toNat_lt.mp h)

/-- The label of an interval covers what belongs to the interval. -/
theorem covers_label (i : Interval) (d : UInt64) : Covers d.toNat i.label ↔ i.Contains d :=
  ⟨contains_of_covers, covers_of_contains⟩

end Interval

/-! ### The intervals that bounds cut -/

namespace Interval

theorem ends_beyond {lower : UInt64} {bs : List UInt64} {i : Nat} {j : Interval}
    (h : (beyond lower bs)[i]? = some j) :
    j.lower? = (lower :: bs)[i]? ∧ j.upper? = bs[i]? := by
  induction bs generalizing lower i with
  | nil =>
    cases i with
    | zero =>
      cases h
      exact ⟨rfl, rfl⟩
    | succ i => cases h
  | cons b bs ih =>
    cases i with
    | zero =>
      cases h
      exact ⟨rfl, rfl⟩
    | succ i => exact ih h

/-- An interval starts at the bound below its bucket and ends at the bucket's own. -/
theorem ends_cut {bs : List UInt64} (hne : bs ≠ []) {i : Nat} {j : Interval}
    (h : (cut bs)[i]? = some j) : j.lower? = boundBelow? bs i ∧ j.upper? = bs[i]? := by
  cases bs with
  | nil => exact absurd rfl hne
  | cons b bs =>
    cases i with
    | zero =>
      cases h
      exact ⟨rfl, rfl⟩
    | succ i => exact ends_beyond h

theorem getElem?_cut_nil {i : Nat} {j : Interval} (h : (cut [])[i]? = some j) :
    i = 0 ∧ j = .above 0 := by
  cases i with
  | zero => exact ⟨rfl, (Option.some.inj h).symm⟩
  | succ i => cases h

end Interval

/-- A duration belongs to the interval with its index and to no other. Without bounds the
only interval starts above zero, so zero has none. -/
theorem Bounds.contains_iff (b : Bounds) {i : Nat} {j : Interval} (hj : b.intervals[i]? = some j)
    (d : UInt64) :
    j.Contains d ↔ bucketIndex b.values d = i ∧ (b.values ≠ [] ∨ d ≠ 0) := by
  have hi : i ≤ b.values.length := by
    obtain ⟨hlt, -⟩ := List.getElem?_eq_some_iff.mp hj
    rw [b.length_intervals] at hlt
    exact Nat.le_of_lt_succ hlt
  by_cases hne : b.values = []
  · rw [Bounds.intervals, hne] at hj
    obtain ⟨rfl, rfl⟩ := Interval.getElem?_cut_nil hj
    have hpos : 0 < d ↔ d ≠ 0 := by
      rw [UInt64.lt_iff_toNat_lt, ne_eq, ← UInt64.toNat_inj]
      exact Nat.pos_iff_ne_zero
    simp [Interval.Contains, hne, bucketIndex, hpos]
  · obtain ⟨hlower, hupper⟩ := Interval.ends_cut hne hj
    rw [and_iff_left (.inl hne), bucketIndex_eq_iff b.increasing d hi, Interval.contains_iff,
      hlower, hupper]
    rfl

/-! ### The main result -/

namespace CounterMatrix

variable {m : CounterMatrix} {name help : String} {bounds : List UInt64}

/-- The labels of the buckets, in order. -/
def intervalLabels (m : CounterMatrix) : List String := m.intervals.map Interval.label

/-- Of some labels, the one with the given index covers the number, and no other does. -/
def CoveredOnlyAt (labels : List String) (index n : Nat) : Prop :=
  (∃ label ∈ labels[index]?, Covers n label) ∧
    ∀ (i : Nat), ∀ label ∈ labels[i]?, Covers n label → i = index

theorem values_ne_nil_iff (hnew : new name help bounds = .ok m) :
    m.bounds.values ≠ [] ↔ bounds ≠ [] := by
  have hmem (b : UInt64) : b ∈ m.bounds.values ↔ b ∈ bounds := by
    rw [eq_of_new hnew]
    exact Bounds.mem_sort
  simp only [ne_eq, List.eq_nil_iff_forall_not_mem, hmem]

theorem covers_intervalLabel (m : CounterMatrix) {i : Nat} {label : String}
    (h : m.intervalLabels[i]? = some label) (d : UInt64) :
    Covers d.toNat label ↔
      bucketIndex m.bounds.values d = i ∧ (m.bounds.values ≠ [] ∨ d ≠ 0) := by
  rw [intervalLabels, List.getElem?_map] at h
  obtain ⟨j, hj, rfl⟩ := Option.map_eq_some_iff.mp h
  rw [Interval.covers_label, m.bounds.contains_iff hj]

theorem exists_intervalLabel (m : CounterMatrix) (d : UInt64) :
    ∃ label, m.intervalLabels[bucketIndex m.bounds.values d]? = some label := by
  refine ⟨_, List.getElem?_eq_getElem ?_⟩
  rw [intervalLabels, List.length_map]
  exact bucketIndex_lt m.bounds d

/-- A sample makes one counter grow, the one with the label of its bucket. -/
theorem grows_under_label (h : m.Proper) (x : Sample) :
    ∃ l : Labels, m.intervalLabels[bucketIndex m.bounds.values x.duration]? = some l.interval ∧
      ∀ l', (m.record x).family.value l' =
        if l' = l then m.family.value l' + 1 else m.family.value l' := by
  obtain ⟨j, hj⟩ : ∃ j, m.intervals[bucketIndex m.bounds.values x.duration]? = some j :=
    ⟨_, List.getElem?_eq_getElem (bucketIndex_lt m.bounds x.duration)⟩
  refine ⟨⟨j.label, x.series.method, x.series.outcome.label⟩, ?_, fun l' => ?_⟩
  · rw [intervalLabels, List.getElem?_map, hj]
    rfl
  · rw [value_record h, labels, List.getElem?_map, hj]
    simp only [Option.map_some, Option.some.injEq, eq_comm]

/-- If there are any bounds, or the duration is not zero, the label with the index of the
duration covers it, and no other does.  In the remaining case none of them does.  A
recorded sample makes one counter grow, and likewise the label of this counter covers the
duration of the sample with the same exception. -/
theorem labels_truthful_iff (hnew : new name help bounds = .ok m) (d : UInt64) :
    (CoveredOnlyAt m.intervalLabels (bucketIndex m.bounds.values d) d.toNat ↔
      bounds ≠ [] ∨ d ≠ 0) ∧
    ((∀ label ∈ m.intervalLabels, ¬Covers d.toNat label) ↔ bounds = [] ∧ d = 0) ∧
    ∀ (xs : List Sample) (x : Sample),
      let r := xs.foldl record m
      ∃ l : Labels, (∀ l', (r.record x).family.value l' =
          if l' = l then r.family.value l' + 1 else r.family.value l') ∧
        (Covers x.duration.toNat l.interval ↔ bounds ≠ [] ∨ x.duration ≠ 0) := by
  have hcovers {i : Nat} {label : String} (h : m.intervalLabels[i]? = some label) (d : UInt64) :
      Covers d.toNat label ↔ bucketIndex m.bounds.values d = i ∧ (bounds ≠ [] ∨ d ≠ 0) := by
    rw [covers_intervalLabel m h, values_ne_nil_iff hnew]
  obtain ⟨own, hown⟩ := exists_intervalLabel m d
  refine ⟨?_, ?_, fun xs x => ?_⟩
  · constructor
    · rintro ⟨⟨label, hlabel, hcovered⟩, -⟩
      exact ((hcovers hlabel d).mp hcovered).2
    · intro h
      exact ⟨⟨own, hown, (hcovers hown d).mpr ⟨rfl, h⟩⟩,
        fun i label hlabel hcovered => ((hcovers hlabel d).mp hcovered).1.symm⟩
  · constructor
    · intro hnone
      have hown' := hnone own (List.mem_of_getElem? hown)
      rw [hcovers hown d] at hown'
      simpa using hown'
    · rintro ⟨hnil, hzero⟩ label hmem hcovered
      obtain ⟨i, hi⟩ := List.mem_iff_getElem?.mp hmem
      rcases ((hcovers hi d).mp hcovered).2 with hne | hne
      · exact hne hnil
      · exact hne hzero
  · intro r
    obtain ⟨l, hl, hgrows⟩ := grows_under_label ((proper_of_new hnew).foldl_record xs) x
    have hbounds : r.bounds = m.bounds := bounds_foldl_record m xs
    rw [intervalLabels, intervals, hbounds] at hl
    refine ⟨l, hgrows, ?_⟩
    rw [hcovers hl x.duration, and_iff_right rfl]

/-- Zero is below every bound, but it has an interval of its own if zero is a bound. -/
theorem labels_truthful_iff_zero :
    ∃ m, new "calls" "Calls to a builder" [100, 0, 100] = .ok m ∧
      m.intervalLabels = ["[0,0]", "(0,100]", "(100,+inf)"] ∧
      CoveredOnlyAt m.intervalLabels 0 0 ∧ CoveredOnlyAt m.intervalLabels 1 100 := by
  have hnew : new "calls" "Calls to a builder" [100, 0, 100] = .ok _ := rfl
  obtain ⟨hzero, -⟩ := labels_truthful_iff hnew 0
  obtain ⟨hbound, -⟩ := labels_truthful_iff hnew 100
  exact ⟨_, hnew, rfl, hzero.mpr (.inl (by decide)), hbound.mpr (.inl (by decide))⟩

/-- It is not so that the labels always tell the truth: without bounds, a duration of zero
is counted under a label that says that it is above zero. -/
theorem not_labels_truthful :
    ¬∀ (name help : String) (bounds : List UInt64) (m : CounterMatrix) (d : UInt64),
      new name help bounds = .ok m →
        CoveredOnlyAt m.intervalLabels (bucketIndex m.bounds.values d) d.toNat := by
  intro h
  have hnew : new "calls" "Calls to a builder" [] = .ok _ := rfl
  obtain ⟨⟨label, hlabel, hcovered⟩, -⟩ := h _ _ _ _ 0 hnew
  have hbounds := ((covers_intervalLabel _ hlabel 0).mp hcovered).2
  exact hbounds.elim (fun hne => hne rfl) fun hne => hne rfl

end CounterMatrix

end ExecutionLink
