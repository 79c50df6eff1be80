/-
What was recorded decides what a matrix is.

A matrix that was only ever recorded into (`CounterMatrix.Tidy`) has its rows and its
counters in order, and there are no counters but those of its rows.

* `CounterMatrix.Tidy.ext` — two such matrices that were set up alike, have seen the
  same series and have the same counts are equal.
* `CounterMatrix.foldl_record_perm` — so the order in which samples are recorded is
  of no matter.
-/
import ExecutionLink.Proofs.Metrics.Counting
import ExecutionLink.Proofs.Table
import Mathlib.Data.String.Basic

namespace ExecutionLink

/-! ### Order -/

/-- Comparing by one key and then by another one is a total order if the two make up
the whole. -/
theorem isStrictTotalOrder_lex {α β γ : Type} {r : β → β → Prop} {s : γ → γ → Prop}
    [IsStrictTotalOrder β r] [IsStrictTotalOrder γ s] {f : α → β} {g : α → γ}
    (hinj : ∀ a b, f a = f b → g a = g b → a = b) :
    IsStrictTotalOrder α fun a b => r (f a) (f b) ∨ (f a = f b ∧ s (g a) (g b)) where
  trichotomous a b hab hba := by
    obtain ⟨hf, hg⟩ := not_or.mp hab
    obtain ⟨hf', hg'⟩ := not_or.mp hba
    have hfirst : f a = f b := ((trichotomous_of r (f a) (f b)).resolve_left hf).resolve_right hf'
    have hsecond : g a = g b := by
      refine ((trichotomous_of s (g a) (g b)).resolve_left ?_).resolve_right ?_
      · exact fun h => hg ⟨hfirst, h⟩
      · exact fun h => hg' ⟨hfirst.symm, h⟩
    exact hinj a b hfirst hsecond
  irrefl a := by
    rintro (h | ⟨-, h⟩)
    · exact irrefl_of r (f a) h
    · exact irrefl_of s (g a) h
  trans a b c := by
    rintro (hab | ⟨heq, hab⟩) (hbc | ⟨heq', hbc⟩)
    · exact .inl (trans_of r hab hbc)
    · exact .inl (heq' ▸ hab)
    · exact .inl (heq ▸ hbc)
    · exact .inr ⟨heq.trans heq', trans_of s hab hbc⟩

theorem Series.rank_injective {a b : Outcome} (h : rank a = rank b) : a = b := by
  cases a <;> cases b <;> first | rfl | cases h

instance : IsStrictTotalOrder Series (· < ·) :=
  isStrictTotalOrder_lex (r := (· < ·)) (s := (· < ·)) (f := Series.method)
    (g := fun s => Series.rank s.outcome) fun a b hmethod hrank => by
      cases a
      cases b
      exact congrArg₂ Series.mk hmethod (Series.rank_injective hrank)

instance strictTotalOrder_pair : IsStrictTotalOrder (String × String)
    fun a b => a.1 < b.1 ∨ (a.1 = b.1 ∧ a.2 < b.2) :=
  isStrictTotalOrder_lex (r := (· < ·)) (s := (· < ·)) fun _ _ => Prod.ext

instance : IsStrictTotalOrder Labels (· < ·) :=
  isStrictTotalOrder_lex (r := (· < ·)) (s := fun a b => a.1 < b.1 ∨ (a.1 = b.1 ∧ a.2 < b.2))
    (f := Labels.interval) (g := fun l => (l.method, l.outcome)) fun a b hinterval hrest => by
      cases a
      cases b
      cases hinterval
      cases hrest
      rfl

/-! ### Tidy matrices -/

namespace CounterMatrix

variable {m m' : CounterMatrix}

/-- A matrix that was only ever recorded into. -/
structure Tidy (m : CounterMatrix) : Prop extends m.Proper where
  rows : m.rows.Sorted
  counters : m.family.counters.Sorted
  owned : ∀ l, (m.family.counters.find? l).isSome → ∃ s, (m.row? s).isSome ∧ l ∈ m.labels s

theorem eq_of_new {name help : String} {bounds : List UInt64}
    (h : new name help bounds = .ok m) : m = { name, help, bounds := .ofList bounds } := by
  unfold new at h
  split at h
  next => cases h
  next =>
    split at h
    next => exact (Except.ok.inj h).symm
    next => cases h

theorem tidy_of_new {name help : String} {bounds : List UInt64}
    (h : new name help bounds = .ok m) : m.Tidy := by
  have hproper := proper_of_new h
  rw [eq_of_new h] at hproper ⊢
  exact ⟨hproper, Table.sorted_empty, Table.sorted_empty, nofun⟩

theorem sorted_foldl_withCounter {f : CounterFamily} (h : f.counters.Sorted) (row : Row) :
    (row.foldl CounterFamily.withCounter f).counters.Sorted := by
  induction row generalizing f with
  | nil => exact h
  | cons l row ih => exact ih (Table.sorted_ensure h l 0)

theorem Tidy.makeRow (h : m.Tidy) (s : Series) : (m.makeRow s).2.Tidy where
  toProper := h.toProper.makeRow s
  rows := by
    unfold CounterMatrix.makeRow
    cases m.row? s with
    | none => exact Table.sorted_ensure h.rows s (m.labels s)
    | some row => exact h.rows
  counters := by
    unfold CounterMatrix.makeRow
    cases m.row? s with
    | none => exact sorted_foldl_withCounter h.counters (m.labels s)
    | some row => exact h.counters
  owned l hl := by
    rcases (isSome_find?_makeRow h.toProper s l).mp hl with hnew | hold
    · refine ⟨s, isSome_row?_makeRow m s, ?_⟩
      rw [labels_makeRow]
      exact hnew
    · obtain ⟨t, ht, htl⟩ := h.owned l hold
      refine ⟨t, ?_, ?_⟩
      · rw [row?_makeRow]
        split
        · rfl
        · exact ht
      · rw [labels_makeRow]
        exact htl

theorem Tidy.increment (h : m.Tidy) {s : Series} (hseen : (m.row? s).isSome) (d : UInt64) :
    (m.increment (m.labels s) d).Tidy where
  toProper := h.toProper.increment hseen d
  rows := by
    unfold CounterMatrix.increment
    split <;> exact h.rows
  counters := by
    unfold CounterMatrix.increment
    split
    · exact Table.sorted_modify h.counters _ _
    · exact h.counters
  owned l hl := by
    obtain ⟨t, ht, htl⟩ := h.owned l ((isSome_find?_increment _ _ _ _).mp hl)
    refine ⟨t, ?_, ?_⟩
    · rw [row?_increment]
      exact ht
    · rw [labels_increment]
      exact htl

theorem Tidy.record (h : m.Tidy) (x : Sample) : (m.record x).Tidy := by
  rw [record_eq h.toProper]
  exact (h.makeRow x.series).increment (isSome_row?_makeRow m x.series) x.duration

theorem Tidy.foldl_record (h : m.Tidy) (xs : List Sample) :
    (xs.foldl CounterMatrix.record m).Tidy := by
  induction xs generalizing m with
  | nil => exact h
  | cons x xs ih => exact ih (h.record x)

/-! ### Equal matrices -/

/-- The matrices were set up with the same name, help text and bounds. -/
structure Alike (m m' : CounterMatrix) : Prop where
  name : m.name = m'.name
  help : m.help = m'.help
  bounds : m.bounds = m'.bounds

/-- What a tidy matrix has counted under the labels of a series is in its counters. -/
theorem Tidy.find?_labels (h : m.Tidy) {s : Series} (hseen : (m.row? s).isSome) {i : Nat}
    {l : Labels} (hl : (m.labels s)[i]? = some l) :
    m.family.counters.find? l = some (m.count s i) := by
  have hcounter := h.counter s hseen l (List.mem_of_getElem? hl)
  obtain ⟨v, hv⟩ := Option.isSome_iff_exists.mp hcounter
  rw [h.toProper.count_eq, hl, hv]
  show some v = some ((m.family.counters.find? l).getD 0)
  rw [hv]
  rfl

theorem Alike.symm (h : Alike m m') : Alike m' m :=
  ⟨h.name.symm, h.help.symm, h.bounds.symm⟩

theorem Alike.trans {m'' : CounterMatrix} (h : Alike m m') (h' : Alike m' m'') : Alike m m'' :=
  ⟨h.name.trans h'.name, h.help.trans h'.help, h.bounds.trans h'.bounds⟩

theorem Alike.labels_eq (h : Alike m m') (s : Series) : m.labels s = m'.labels s := by
  rw [labels, labels, intervals, intervals, h.bounds]

theorem Tidy.row?_of_alike (h : m.Tidy) (h' : m'.Tidy) (halike : Alike m m') {s : Series}
    (hseen : (m.row? s).isSome → (m'.row? s).isSome) {row : Row} (hrow : m.row? s = some row) :
    m'.row? s = some row := by
  obtain ⟨row', hrow'⟩ := Option.isSome_iff_exists.mp (hseen (Option.isSome_of_eq_some hrow))
  rw [hrow', h'.row s row' hrow', h.row s row hrow, halike.labels_eq]

theorem Tidy.find?_of_alike (h : m.Tidy) (h' : m'.Tidy) (halike : Alike m m')
    (hseen : ∀ s, (m.row? s).isSome → (m'.row? s).isSome)
    (hcount : ∀ s i, m.count s i = m'.count s i) {l : Labels} {v : UInt64}
    (hl : m.family.counters.find? l = some v) : m'.family.counters.find? l = some v := by
  obtain ⟨s, hs, hmem⟩ := h.owned l (Option.isSome_of_eq_some hl)
  obtain ⟨i, hi⟩ := List.mem_iff_getElem?.mp hmem
  have hi' : (m'.labels s)[i]? = some l := by
    rw [← halike.labels_eq]
    exact hi
  rw [h'.find?_labels (hseen s hs) hi', ← hcount, ← h.find?_labels hs hi, hl]

theorem Tidy.ext (h : m.Tidy) (h' : m'.Tidy) (halike : Alike m m')
    (hseen : ∀ s, (m.row? s).isSome ↔ (m'.row? s).isSome)
    (hcount : ∀ s i, m.count s i = m'.count s i) : m = m' := by
  have hrows : m.rows = m'.rows := by
    refine Table.ext_of_sorted h.rows h'.rows fun s => Option.ext fun row => ?_
    constructor
    · exact h.row?_of_alike h' halike (hseen s).mp
    · exact h'.row?_of_alike h halike.symm (hseen s).mpr
  have hcounters : m.family.counters = m'.family.counters := by
    refine Table.ext_of_sorted h.counters h'.counters fun l => Option.ext fun v => ?_
    constructor
    · exact h.find?_of_alike h' halike (fun s => (hseen s).mp) hcount
    · exact h'.find?_of_alike h halike.symm (fun s => (hseen s).mpr) fun s i => (hcount s i).symm
  obtain ⟨name, help, bounds, rows, family⟩ := m
  obtain ⟨name', help', bounds', rows', family'⟩ := m'
  obtain ⟨hname, hhelp, hbounds⟩ := halike
  cases family
  cases family'
  simp only at hname hhelp hbounds hrows hcounters
  rw [hname, hhelp, hbounds, hrows, hcounters]

/-- No reading tells the matrices apart. -/
structure ReadsAs (m m' : CounterMatrix) : Prop where
  snapshot : m.snapshot = m'.snapshot
  count : ∀ s i, m.count s i = m'.count s i
  total : ∀ s, m.total s = m'.total s

/-! ### Recording in any order -/

theorem alike_makeRow (m : CounterMatrix) (s : Series) : Alike (m.makeRow s).2 m := by
  unfold makeRow
  cases m.row? s <;> exact ⟨rfl, rfl, rfl⟩

theorem alike_increment (m : CounterMatrix) (row : Row) (d : UInt64) :
    Alike (m.increment row d) m := by
  unfold increment
  split <;> exact ⟨rfl, rfl, rfl⟩

theorem alike_foldl_record (m : CounterMatrix) (xs : List Sample) :
    Alike (xs.foldl record m) m := by
  induction xs generalizing m with
  | nil => exact ⟨rfl, rfl, rfl⟩
  | cons x xs ih =>
    exact (ih (m.record x)).trans ((alike_increment _ _ _).trans (alike_makeRow m x.series))

theorem isSome_row?_makeRow_iff (m : CounterMatrix) (s t : Series) :
    ((m.makeRow s).2.row? t).isSome ↔ t = s ∨ (m.row? t).isSome := by
  rw [row?_makeRow]
  by_cases hts : t = s <;> simp [hts]

theorem isSome_row?_foldl_record (m : CounterMatrix) (xs : List Sample) (s : Series) :
    ((xs.foldl record m).row? s).isSome ↔ s ∈ xs.map Sample.series ∨ (m.row? s).isSome := by
  induction xs generalizing m with
  | nil => simp
  | cons x xs ih =>
    have hrecord : ((m.record x).row? s).isSome ↔ s = x.series ∨ (m.row? s).isSome := by
      show (((m.makeRow x.series).2.increment _ _).row? s).isSome ↔ _
      rw [row?_increment, isSome_row?_makeRow_iff]
    rw [List.foldl_cons, ih, hrecord, List.map_cons, List.mem_cons]
    tauto

/-- The order in which samples are recorded is of no matter. -/
theorem foldl_record_perm (h : m.Tidy) {xs ys : List Sample} (hperm : xs.Perm ys) :
    xs.foldl record m = ys.foldl record m := by
  refine (h.foldl_record xs).ext (h.foldl_record ys) ?_ ?_ ?_
  · exact (alike_foldl_record m xs).trans (alike_foldl_record m ys).symm
  · intro s
    rw [isSome_row?_foldl_record, isSome_row?_foldl_record, (hperm.map Sample.series).mem_iff]
  · intro s i
    rw [count_foldl_record h.toProper, count_foldl_record h.toProper, tally_perm _ hperm]

end CounterMatrix

end ExecutionLink
