/-
The builder's counters in a registry.

The builder's counters can always be made, so registering them is refused only if
they are registered already.  What is then recorded goes into the registered ones.
-/
import ExecutionLink.Metrics.Registry

namespace ExecutionLink

namespace CounterMatrix

/-- The builder's counters before any request. -/
def builderCounters : CounterMatrix where
  name := builderName
  help := builderHelp
  bounds := .ofList builderBounds

/-- The builder's counters have a proper name and a help text. -/
theorem builderRequests_eq : builderRequests = .ok builderCounters := rfl

theorem isMetricName_builderName : isMetricName builderName := by
  decide

end CounterMatrix

namespace MetricsRegistry

variable {r : MetricsRegistry}

/-- The counters of a name are those registered counters that have this name. -/
theorem family?_eq_some_iff {name : String} {m : CounterMatrix} :
    r.family? name = some m ↔ m ∈ r.matrices ∧ m.name = name := by
  rw [family?, ← Table.mem_entries_iff r.distinct]
  constructor
  · intro hmem
    exact ⟨List.mem_map_of_mem hmem, r.named _ hmem⟩
  · rintro ⟨hmem, hname⟩
    obtain ⟨⟨k, m⟩, he, rfl⟩ := List.mem_map.mp hmem
    obtain rfl : k = name := (r.named _ he).symm.trans hname
    exact he

/-! ### Registering -/

/-- A registry that holds the builder's counters refuses them. -/
theorem registerBuilder_of_isSome (h : r.matrix.isSome) :
    r.registerBuilder = .error .alreadyRegistered := by
  obtain ⟨m, hm⟩ := Option.isSome_iff_exists.mp h
  have hfamily : r.family? CounterMatrix.builderCounters.name = some m := hm
  show r.register .builderCounters = _
  rw [register, hfamily]

/-- Any other registry takes them. -/
theorem registerBuilder_of_none (h : r.matrix = none) :
    ∃ r', r.registerBuilder = .ok r' ∧ r'.matrix = some .builderCounters := by
  have hfamily : r.family? CounterMatrix.builderCounters.name = none := h
  have hregister : ∃ r', r.register .builderCounters = .ok r' := by
    unfold register
    rw [hfamily]
    exact ⟨_, rfl⟩
  obtain ⟨r', hr'⟩ := hregister
  refine ⟨r', hr', ?_⟩
  rw [matrix, family?_register hr']
  exact if_pos rfl

/-- What is registered stays registered when others register something. -/
theorem isSome_matrix_register {r' : MetricsRegistry} {m : CounterMatrix}
    (h : r.register m = .ok r') (hsome : r.matrix.isSome) : r'.matrix.isSome := by
  rw [matrix, family?_register h]
  split
  · rfl
  · exact hsome

/-! ### Recording -/

theorem isSome_matrix_recordIn (r : MetricsRegistry) (name : String) (s : Sample) :
    (r.recordIn name s).matrix.isSome = r.matrix.isSome := by
  rw [matrix, matrix, family?_recordIn]
  split
  next h => rw [Option.isSome_map, h]
  next => rfl

theorem family?_foldl_recordIn (r : MetricsRegistry) (name other : String) (xs : List Sample) :
    (xs.foldl (recordIn name) r).family? other =
      if other = name then (r.family? name).map (xs.foldl CounterMatrix.record)
      else r.family? other := by
  induction xs generalizing r with
  | nil =>
    by_cases h : other = name
    · rw [if_pos h, h]
      show r.family? name = (r.family? name).map id
      rw [Option.map_id_fun, id_eq]
    · exact (if_neg h).symm
  | cons x xs ih =>
    rw [List.foldl_cons, ih, family?_recordIn, family?_recordIn]
    by_cases h : other = name
    · rw [if_pos h, if_pos h, if_pos rfl, Option.map_map]
      rfl
    · rw [if_neg h, if_neg h, if_neg h]

theorem matrices_record (r : MetricsRegistry) (x : Sample) :
    (r.record x).matrices = r.matrices.map fun m =>
      if m.name = CounterMatrix.builderName then m.record x else m := by
  show (r.families.entries.map _).map Prod.snd = (r.families.entries.map Prod.snd).map _
  rw [List.map_map, List.map_map]
  refine List.map_congr_left fun e he => ?_
  -- what is registered under a name has this name itself
  have hname : e.2.name = e.1 := r.named e he
  show (if e.1 = _ then (e.1, e.2.record x) else e).2 = if e.2.name = _ then e.2.record x else e.2
  rw [hname]
  split <;> rfl

/-- What is recorded goes into the builder's counters and into no others. -/
theorem matrices_foldl_record (r : MetricsRegistry) (xs : List Sample) :
    (xs.foldl record r).matrices = r.matrices.map fun m =>
      if m.name = CounterMatrix.builderName then xs.foldl CounterMatrix.record m else m := by
  induction xs generalizing r with
  | nil => simp
  | cons x xs ih =>
    rw [List.foldl_cons, ih, matrices_record, List.map_map]
    refine List.map_congr_left fun m _ => ?_
    by_cases h : m.name = CounterMatrix.builderName
    · simp [h]
    · simp [h]

/-! ### Registries with nothing else in them -/

theorem matrices_foldl_record_singleton {m : CounterMatrix} (h : r.matrices = [m])
    (hname : m.name = CounterMatrix.builderName) (xs : List Sample) :
    (xs.foldl record r).matrices = [xs.foldl CounterMatrix.record m] := by
  rw [matrices_foldl_record, h, List.map_singleton, if_pos hname]

theorem eq_empty_of_matrices (h : r.matrices = []) : r = .empty := by
  obtain ⟨⟨entries⟩, hdistinct, hnamed⟩ := r
  obtain rfl : entries = [] := List.map_eq_nil_iff.mp h
  rfl

theorem matrices_of_registerBuilder (h : empty.registerBuilder = .ok r) :
    r.matrices = [.builderCounters] := by
  cases h
  rfl

theorem render_of_matrices {m : CounterMatrix} (h : r.matrices = [m]) :
    r.render = Exposition.text m := by
  rw [render, h, List.map_singleton, String.join_cons, String.join_nil, String.append_empty]

end MetricsRegistry

end ExecutionLink
