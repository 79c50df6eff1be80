/-
Threads that record at once count as one that records alone.

A thread looks for the row of a series, makes it if there was none, and counts, and
between these steps any other thread may take steps of its own.  So several may find
that there is no row; the first one makes it, and the others are given that one.

* `ThreadPool.Sound` — what holds after any steps: the matrix has counted the samples
  that are done, the others are still ahead of their threads, and a thread that is
  about to count has the row that the matrix has for the series.
* `ThreadPool.matrix_run` — once all threads are done, the matrix is the one that
  recording all samples one after another leads to, in whatever order.
* `ThreadPool.recorded_as_alone` — so no reading tells them apart, nothing is lost or
  counted twice, and there is one row for each series.
-/
import ExecutionLink.Metrics.Thread
import ExecutionLink.Proofs.Metrics.Canonical

namespace ExecutionLink

namespace CounterMatrix

variable {m : CounterMatrix}

/-- Making a row changes no count. -/
theorem count_makeRow (h : m.Proper) (s t : Series) (i : Nat) :
    (m.makeRow s).2.count t i = m.count t i := by
  rw [(h.makeRow s).count_eq, h.count_eq, labels_makeRow]
  cases (m.labels t)[i]? with
  | none => rfl
  | some l => exact value_makeRow m s l

/-- Counting in the row of a series is recording a sample of it. -/
theorem increment_eq_record {row : Row} {x : Sample} (hrow : m.row? x.series = some row) :
    m.increment row x.duration = m.record x := by
  have hmake : m.makeRow x.series = (row, m) := by
    unfold makeRow
    rw [hrow]
  show _ = (m.makeRow x.series).2.increment (m.makeRow x.series).1 x.duration
  rw [hmake]

theorem row?_makeRow_of_some {s t : Series} {row : Row} (h : m.row? t = some row) :
    (m.makeRow s).2.row? t = some row := by
  rw [row?_makeRow]
  split
  next hts =>
    subst hts
    unfold makeRow
    rw [h]
  next => exact h

end CounterMatrix

namespace Thread

/-- All that a step of a thread can do. -/
theorem step_cases (m : CounterMatrix) (t : Thread) :
    step m t = (m, t) ∨ ∃ x rest, t.samples = x :: rest ∧
      ((∃ row, m.row? x.series = some row ∧ step m t = (m, ⟨x :: rest, .increment row⟩)) ∨
        step m t = (m, ⟨x :: rest, .makeRow⟩) ∨
        step m t = ((m.makeRow x.series).2, ⟨x :: rest, .increment (m.makeRow x.series).1⟩) ∨
        ∃ row, t.phase = .increment row ∧ step m t = (m.increment row x.duration, ⟨rest, .lookUp⟩)) := by
  obtain ⟨samples, phase⟩ := t
  cases samples with
  | nil => exact .inl rfl
  | cons x rest =>
    refine .inr ⟨x, rest, rfl, ?_⟩
    cases phase with
    | lookUp =>
      cases hrow : m.row? x.series with
      | some row => exact .inl ⟨row, rfl, by simp only [step, hrow]⟩
      | none => exact .inr (.inl (by simp only [step, hrow]))
    | makeRow => exact .inr (.inr (.inl rfl))
    | increment row => exact .inr (.inr (.inr ⟨row, rfl, rfl⟩))

/-- If the thread is about to count, it has the row of the matrix. -/
def Holds (m : CounterMatrix) (t : Thread) : Prop :=
  ∀ row, t.phase = .increment row →
    ∃ x rest, t.samples = x :: rest ∧ m.row? x.series = some row

end Thread

namespace ThreadPool

/-- The samples that are still ahead of some thread. -/
def ahead (threads : List Thread) : List Sample :=
  (threads.map Thread.samples).flatten

/-- What a thread has done is not ahead any more. -/
theorem ahead_set_perm {threads : List Thread} {i : Nat} {t u : Thread} {xs : List Sample}
    (hi : threads[i]? = some t) (h : t.samples = xs ++ u.samples) :
    (ahead threads).Perm (xs ++ ahead (threads.set i u)) := by
  induction threads generalizing i with
  | nil => cases hi
  | cons v threads ih =>
    cases i with
    | zero =>
      cases hi
      show (t.samples ++ ahead threads).Perm (xs ++ (u.samples ++ ahead threads))
      rw [h, List.append_assoc]
    | succ i =>
      show (v.samples ++ ahead threads).Perm (xs ++ (v.samples ++ ahead (threads.set i u)))
      refine ((ih hi).append_left v.samples).trans ?_
      rw [← List.append_assoc, ← List.append_assoc]
      exact List.perm_append_comm.append_right _

/-- The state of a pool that has `work` to record and has recorded `done`. -/
structure Sound (base : CounterMatrix) (work : List Sample) (p : ThreadPool) (done : List Sample) :
    Prop where
  tidy : p.matrix.Tidy
  alike : CounterMatrix.Alike p.matrix base
  shared : (done ++ ahead p.threads).Perm work
  seen : ∀ x ∈ done, (p.matrix.row? x.series).isSome
  wanted : ∀ s, (p.matrix.row? s).isSome → s ∈ work.map Sample.series
  holds : ∀ t ∈ p.threads, t.Holds p.matrix
  counted : ∀ s i, p.matrix.count s i =
    UInt64.ofNat (CounterMatrix.tally base.bounds done s i)

/-! ### Single steps -/

theorem holds_set {m m' : CounterMatrix} {threads : List Thread} {i : Nat} {u : Thread}
    (h : ∀ t ∈ threads, t.Holds m)
    (hkeep : ∀ s row, m.row? s = some row → m'.row? s = some row) (hu : u.Holds m') :
    ∀ t ∈ threads.set i u, t.Holds m' := by
  intro t ht
  rcases List.mem_or_eq_of_mem_set ht with ht | rfl
  · intro row hphase
    obtain ⟨x, rest, hsamples, hrow⟩ := h t ht row hphase
    exact ⟨x, rest, hsamples, hkeep _ _ hrow⟩
  · exact hu

section Steps

variable {base : CounterMatrix} {work done : List Sample} {p : ThreadPool} {i : Nat} {t : Thread}
  {x : Sample} {rest : List Sample}

theorem Sound.mem_work (h : Sound base work p done) (hi : p.threads[i]? = some t)
    (hsamples : t.samples = x :: rest) : x ∈ work := by
  refine h.shared.mem_iff.mp (List.mem_append_right _ (List.mem_flatten.mpr ⟨t.samples, ?_, ?_⟩))
  · exact List.mem_map_of_mem (List.mem_of_getElem? hi)
  · rw [hsamples]
    exact List.mem_cons_self

/-- A thread that only looks changes nothing but itself. -/
theorem Sound.look (h : Sound base work p done) (hi : p.threads[i]? = some t) {u : Thread}
    (hsamples : t.samples = u.samples) (hu : u.Holds p.matrix) :
    Sound base work ⟨p.matrix, p.threads.set i u⟩ done where
  tidy := h.tidy
  alike := h.alike
  shared := by
    have hahead : (ahead p.threads).Perm ([] ++ ahead (p.threads.set i u)) :=
      ahead_set_perm hi hsamples
    exact (hahead.append_left done).symm.trans h.shared
  seen := h.seen
  wanted := h.wanted
  holds := holds_set h.holds (fun _ _ hrow => hrow) hu
  counted := h.counted

/-- A thread that makes a row leaves those alone that there are. -/
theorem Sound.make (h : Sound base work p done) (hi : p.threads[i]? = some t)
    (hsamples : t.samples = x :: rest) :
    Sound base work ⟨(p.matrix.makeRow x.series).2,
      p.threads.set i ⟨x :: rest, .increment (p.matrix.makeRow x.series).1⟩⟩ done where
  tidy := h.tidy.makeRow x.series
  alike := (CounterMatrix.alike_makeRow _ _).trans h.alike
  shared := by
    have hahead : (ahead p.threads).Perm
        ([] ++ ahead (p.threads.set i ⟨x :: rest, .increment (p.matrix.makeRow x.series).1⟩)) :=
      ahead_set_perm hi hsamples
    exact (hahead.append_left done).symm.trans h.shared
  seen y hy := (CounterMatrix.isSome_row?_makeRow_iff _ _ _).mpr (.inr (h.seen y hy))
  wanted s hs := by
    rcases (CounterMatrix.isSome_row?_makeRow_iff _ _ _).mp hs with rfl | hs
    · exact List.mem_map_of_mem (h.mem_work hi hsamples)
    · exact h.wanted s hs
  holds := by
    refine holds_set h.holds (fun s row => CounterMatrix.row?_makeRow_of_some) ?_
    rintro row ⟨⟩
    refine ⟨x, rest, rfl, ?_⟩
    rw [CounterMatrix.row?_makeRow, if_pos rfl]
  counted s j := by
    rw [CounterMatrix.count_makeRow h.tidy.toProper, h.counted]

/-- A thread that counts has done its sample. -/
theorem Sound.count (h : Sound base work p done) (hi : p.threads[i]? = some t)
    (hsamples : t.samples = x :: rest) {row : Row} (hphase : t.phase = .increment row) :
    Sound base work ⟨p.matrix.increment row x.duration, p.threads.set i ⟨rest, .lookUp⟩⟩
      (done ++ [x]) := by
  have hrow : p.matrix.row? x.series = some row := by
    obtain ⟨y, rest', hy, hrow⟩ := h.holds t (List.mem_of_getElem? hi) row hphase
    obtain ⟨rfl, -⟩ := List.cons.inj (hsamples.symm.trans hy)
    exact hrow
  have hrows : ∀ s, (p.matrix.record x).row? s = p.matrix.row? s := by
    intro s
    rw [← CounterMatrix.increment_eq_record hrow, CounterMatrix.row?_increment]
  rw [CounterMatrix.increment_eq_record hrow]
  constructor
  · exact h.tidy.record x
  · exact (CounterMatrix.alike_foldl_record _ [x]).trans h.alike
  · have hahead : (ahead p.threads).Perm ([x] ++ ahead (p.threads.set i ⟨rest, .lookUp⟩)) :=
      ahead_set_perm hi hsamples
    rw [List.append_assoc]
    exact (hahead.append_left done).symm.trans h.shared
  · intro y hy
    rw [hrows]
    rcases List.mem_append.mp hy with hy | hy
    · exact h.seen y hy
    · rw [List.mem_singleton.mp hy, hrow]
      rfl
  · intro s hs
    rw [hrows] at hs
    exact h.wanted s hs
  · refine holds_set h.holds (fun s row hs => ?_) nofun
    show (p.matrix.record x).row? s = some row
    rw [hrows, hs]
  · intro s j
    have hone := CounterMatrix.count_foldl_record h.tidy.toProper [x] s j
    rw [h.alike.bounds, h.counted] at hone
    rw [CounterMatrix.tally_append, UInt64.ofNat_add]
    exact hone

theorem Sound.step (h : Sound base work p done) (i : Nat) :
    ∃ done', Sound base work (p.step i) done' := by
  unfold ThreadPool.step
  cases hi : p.threads[i]? with
  | none => exact ⟨done, h⟩
  | some t =>
    rcases t.step_cases p.matrix with hstep | ⟨x, rest, hsamples, hstep⟩
    · simp only [hstep]
      exact ⟨done, h.look hi rfl (h.holds t (List.mem_of_getElem? hi))⟩
    · rcases hstep with ⟨row, hrow, hstep⟩ | hstep | hstep | ⟨row, hphase, hstep⟩
      · simp only [hstep]
        refine ⟨done, h.look hi hsamples ?_⟩
        rintro _ ⟨⟩
        exact ⟨x, rest, rfl, hrow⟩
      · simp only [hstep]
        exact ⟨done, h.look hi hsamples nofun⟩
      · simp only [hstep]
        exact ⟨done, h.make hi hsamples⟩
      · simp only [hstep]
        exact ⟨done ++ [x], h.count hi hsamples hphase⟩

end Steps

/-- A row that there is stays as it is. -/
theorem row?_step {p : ThreadPool} {s : Series} {row : Row} (h : p.matrix.row? s = some row)
    (i : Nat) : (p.step i).matrix.row? s = some row := by
  unfold step
  cases p.threads[i]? with
  | none => exact h
  | some t =>
    rcases t.step_cases p.matrix with hstep | ⟨x, rest, -, hstep⟩
    · simp only [hstep, h]
    · rcases hstep with ⟨_, -, hstep⟩ | hstep | hstep | ⟨_, -, hstep⟩
      · simp only [hstep, h]
      · simp only [hstep, h]
      · simp only [hstep, CounterMatrix.row?_makeRow_of_some h]
      · simp only [hstep, CounterMatrix.row?_increment, h]

/-! ### Runs -/

/-- Threads that have not begun yet, with the samples that each of them has to record. -/
def start (m : CounterMatrix) (work : List (List Sample)) : ThreadPool :=
  ⟨m, work.map fun xs => { samples := xs }⟩

theorem ahead_start (m : CounterMatrix) (work : List (List Sample)) :
    ahead (start m work).threads = work.flatten := by
  rw [ahead, start, List.map_map]
  exact congrArg List.flatten (List.map_id work)

theorem sound_start {name help : String} {bounds : List UInt64} {m : CounterMatrix}
    (hnew : CounterMatrix.new name help bounds = .ok m) (work : List (List Sample)) :
    Sound m work.flatten (start m work) [] where
  tidy := CounterMatrix.tidy_of_new hnew
  alike := ⟨rfl, rfl, rfl⟩
  shared := by rw [List.nil_append, ahead_start]
  seen := nofun
  wanted s hs := by
    rw [CounterMatrix.eq_of_new hnew] at hs
    cases hs
  holds t ht row hphase := by
    obtain ⟨xs, -, rfl⟩ := List.mem_map.mp ht
    cases hphase
  counted s i := by
    rw [CounterMatrix.eq_of_new hnew]
    rfl

theorem Sound.run {base : CounterMatrix} {work done : List Sample} {p : ThreadPool}
    (h : Sound base work p done) (schedule : List Nat) :
    ∃ done', Sound base work (p.run schedule) done' := by
  induction schedule generalizing p done with
  | nil => exact ⟨done, h⟩
  | cons i schedule ih =>
    obtain ⟨done', h'⟩ := h.step i
    exact ih h'

theorem row?_run {p : ThreadPool} {s : Series} {row : Row} (h : p.matrix.row? s = some row)
    (schedule : List Nat) : (p.run schedule).matrix.row? s = some row := by
  induction schedule generalizing p with
  | nil => exact h
  | cons i schedule ih => exact ih (row?_step h i)

theorem ahead_eq_nil {p : ThreadPool} (h : p.isDone) : ahead p.threads = [] := by
  refine List.flatten_eq_nil_iff.mpr fun xs hxs => ?_
  obtain ⟨t, ht, rfl⟩ := List.mem_map.mp hxs
  exact List.isEmpty_iff.mp (List.all_eq_true.mp h t ht)

/-- Once all threads are done the matrix is as if one of them had done it all. -/
theorem matrix_run {name help : String} {bounds : List UInt64} {m : CounterMatrix}
    (hnew : CounterMatrix.new name help bounds = .ok m) {work : List (List Sample)}
    {schedule : List Nat} (hdone : ((start m work).run schedule).isDone) {order : List Sample}
    (horder : order.Perm work.flatten) :
    ((start m work).run schedule).matrix = order.foldl CounterMatrix.record m := by
  obtain ⟨done, h⟩ := (sound_start hnew work).run schedule
  have htidy := CounterMatrix.tidy_of_new hnew
  have hperm : done.Perm order := by
    have hshared := h.shared
    rw [ahead_eq_nil hdone, List.append_nil] at hshared
    exact hshared.trans horder.symm
  have hfresh : ∀ s, m.row? s = none ∧ ∀ i, m.count s i = 0 := by
    intro s
    rw [CounterMatrix.eq_of_new hnew]
    exact ⟨rfl, fun i => rfl⟩
  refine h.tidy.ext (htidy.foldl_record order) ?_ ?_ ?_
  · exact h.alike.trans (CounterMatrix.alike_foldl_record m order).symm
  · intro s
    rw [CounterMatrix.isSome_row?_foldl_record, (hfresh s).1]
    constructor
    · intro hs
      exact .inl ((horder.map Sample.series).mem_iff.mpr (h.wanted s hs))
    · rintro (hs | hs)
      · obtain ⟨x, hx, rfl⟩ := List.mem_map.mp hs
        exact h.seen x (hperm.mem_iff.mpr hx)
      · cases hs
  · intro s i
    rw [h.counted, CounterMatrix.count_foldl_record htidy.toProper, (hfresh s).2,
      CounterMatrix.tally_perm m.bounds hperm, UInt64.zero_add]

/-- Whatever turns the threads take: once they are done, every reading is as if one
thread had recorded all the samples in some order, and each bucket has counted the
samples that fall into it.  All the way every thread counts in the row of the matrix,
and a row that there is stays for good. -/
theorem recorded_as_alone {name help : String} {bounds : List UInt64} {m : CounterMatrix}
    (hnew : CounterMatrix.new name help bounds = .ok m) (work : List (List Sample))
    (schedule : List Nat) :
    (((start m work).run schedule).isDone → ∀ order : List Sample, order.Perm work.flatten →
      ((start m work).run schedule).matrix.ReadsAs (order.foldl CounterMatrix.record m) ∧
        ∀ s i, ((start m work).run schedule).matrix.count s i =
          UInt64.ofNat (CounterMatrix.tally m.bounds order s i)) ∧
    (∀ t ∈ ((start m work).run schedule).threads,
      t.Holds ((start m work).run schedule).matrix) ∧
    ∀ s row later, ((start m work).run schedule).matrix.row? s = some row →
      ((start m work).run (schedule ++ later)).matrix.row? s = some row := by
  obtain ⟨done, h⟩ := (sound_start hnew work).run schedule
  refine ⟨?_, h.holds, ?_⟩
  · intro hdone order horder
    refine ⟨?_, fun s i => ?_⟩
    · rw [matrix_run hnew hdone horder]
      exact ⟨rfl, fun _ _ => rfl, fun _ => rfl⟩
    · have hperm := h.shared
      rw [ahead_eq_nil hdone, List.append_nil] at hperm
      rw [h.counted, CounterMatrix.tally_perm m.bounds (hperm.trans horder.symm)]
  · intro s row later hrow
    rw [run, List.foldl_append]
    exact row?_run hrow later

/-- Two threads look for the same row before either of them makes it. -/
theorem recorded_as_alone_race :
    ∃ m, CounterMatrix.new "requests" "Requests" [10] = .ok m ∧
      let s : Series := ⟨"status", .success⟩
      let race := (start m [[⟨s, 5⟩], [⟨s, 20⟩]]).run [0, 1, 0, 1, 0, 1]
      race.isDone ∧ race.matrix.ReadsAs ([⟨s, 20⟩, ⟨s, 5⟩].foldl CounterMatrix.record m) := by
  have hnew : CounterMatrix.new "requests" "Requests" [10] = .ok _ := rfl
  refine ⟨_, hnew, by decide, ?_⟩
  exact ((recorded_as_alone hnew [[⟨⟨"status", .success⟩, 5⟩], [⟨⟨"status", .success⟩, 20⟩]]
    [0, 1, 0, 1, 0, 1]).1 (by decide) _ (.swap _ _ _)).1

end ThreadPool

end ExecutionLink
