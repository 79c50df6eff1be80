/-
Counting the calls to a builder changes nothing but the counts.

Any number of clients of builders act on one site.  Their calls are begun,
resumed and given up in any order, and the clock is changed in between.
`Traffic` is the state of all this together with the calls that were begun, and
each of them with the times that the clock showed when it was begun and when it
was answered.  How a builder behaves is left open: it acts on a state of its own
and on the clock, and is handed its calls by `watched`, which notes them down.

* `Traffic.mirror` — what the traffic of plain clients would look like if its
  calls were counted.
* `Traffic.mirror_run` — counted clients behave as the mirror of plain ones; the
  metrics have recorded the samples of the answered calls, in the order in which
  they were answered.
* `counted_exactly_once` — what this means for the results of the calls, the
  state of everybody but the metrics, and the counts.
-/
import ExecutionLink.Channel.Basic
import ExecutionLink.Proofs.Metrics.Counting
import ExecutionLink.Proofs.Metrics.Registered

open scoped List

namespace ExecutionLink

variable {κ ν : Type}

theorem Delegate.resume_metered {σ ι : Type} {ρ : ι → Type} (d : Delegate σ ι ρ)
    (m : Metering σ ι ρ) {c : ι} (start : UInt64) (pending : d.Pending c) (s : σ) :
    (d.metered m).resume c (start, pending) s =
      match d.resume c pending s with
      | (.answered r, s) => (.answered r, m.record (m.sample start r s) s)
      | (.pending pending, s) => (.pending (start, pending), s) := rfl

/-! ### Calls -/

/-- The label that a call is to be counted under, whatever name its client gives it. -/
def BuilderCall.label : BuilderCall → String
  | .status => "status"
  | .registerValidators .. => "register_validators"
  | .getHeader .. => "get_header"
  | .getPayload _ => "get_payload"

theorem BuilderCall.method_eq_label (c : BuilderCall) : c.method = c.label := by
  cases c <;> rfl

/-- How a call stands. -/
inductive Stage (π ρ : Type) where
  | underway (pending : π)
  /-- The result, and what the clock showed when it came. -/
  | answered (result : ρ) (finish : UInt64)
  | givenUp

/-- A call of a client, with what the clock showed when it was begun. -/
structure Entry {κ : Type} (π : κ → BuilderCall → Type) where
  client : κ
  call : BuilderCall
  start : UInt64
  stage : Stage (π client call) (CallResult call.Payload)

namespace Entry

variable {π τ : κ → BuilderCall → Type}

/-- The milliseconds between two readings of a clock, none if it went back. -/
def gap (start finish : UInt64) : UInt64 := UInt64.ofNat (finish.toNat - start.toNat)

/-- The sample of a call, which it has once it is answered. -/
def sample? (e : Entry π) : Option Sample :=
  match e.stage with
  | .answered (.ok (.success _)) finish =>
    some ⟨⟨e.call.label, .success⟩, gap e.start finish⟩
  | .answered _ finish => some ⟨⟨e.call.label, .error⟩, gap e.start finish⟩
  | .underway _ | .givenUp => none

/-- Changes what is kept of a call that is under way. -/
def map (f : (k : κ) → (c : BuilderCall) → UInt64 → π k c → τ k c) (e : Entry π) : Entry τ where
  client := e.client
  call := e.call
  start := e.start
  stage :=
    match e.stage with
    | .underway pending => .underway (f e.client e.call e.start pending)
    | .answered result finish => .answered result finish
    | .givenUp => .givenUp

/-- What can be seen of a call from outside. -/
def report (e : Entry π) : Entry fun (_ : κ) _ => Unit := e.map fun _ _ _ _ => ()

theorem report_map (f : (k : κ) → (c : BuilderCall) → UInt64 → π k c → τ k c) (e : Entry π) :
    (e.map f).report = e.report := by
  obtain ⟨k, c, start, stage⟩ := e
  cases stage <;> rfl

theorem sample?_map (f : (k : κ) → (c : BuilderCall) → UInt64 → π k c → τ k c) (e : Entry π) :
    (e.map f).sample? = e.sample? := by
  obtain ⟨k, c, start, stage⟩ := e
  cases stage with
  | answered result finish =>
    rcases result with e | r
    · rfl
    · cases r <;> rfl
  | _ => rfl

theorem gap_eq_elapsed (start finish : UInt64) : gap start finish = Clock.elapsed start finish := by
  rw [gap, Clock.elapsed]
  by_cases h : start ≤ finish
  · rw [if_pos h, ← UInt64.toNat_sub_of_le finish start h, UInt64.ofNat_toNat]
  · have hlt : finish.toNat < start.toNat := UInt64.lt_iff_toNat_lt.mp (UInt64.not_le.mp h)
    rw [if_neg h, Nat.sub_eq_zero_of_le (Nat.le_of_lt hlt)]
    rfl

theorem sample?_answered {k : κ} {c : BuilderCall} {start finish : UInt64}
    {result : CallResult c.Payload} :
    sample? (π := π) ⟨k, c, start, .answered result finish⟩ =
      some ⟨⟨c.method, Outcome.ofCall result⟩, Clock.elapsed start finish⟩ := by
  rw [← gap_eq_elapsed, c.method_eq_label]
  rcases result with e | r
  · rfl
  · cases r <;> rfl

end Entry

/-- The samples of the calls that were answered. -/
def samples {π : κ → BuilderCall → Type} (es : List (Entry π)) : List Sample :=
  es.filterMap Entry.sample?

theorem map_set_of_eq {α β : Type} {f : α → β} {as : List α} {n : Nat} {a b : α}
    (hn : as[n]? = some a) (hb : f b = f a) : (as.set n b).map f = as.map f := by
  obtain ⟨hlt, rfl⟩ := List.getElem?_eq_some_iff.mp hn
  rw [List.map_set, hb, ← List.map_set, List.set_getElem_self]

theorem filterMap_set_of_none {α β : Type} {f : α → Option β} {as : List α} {n : Nat} {a b : α}
    (hn : as[n]? = some a) (ha : f a = none) (hb : f b = none) :
    (as.set n b).filterMap f = as.filterMap f := by
  induction as generalizing n with
  | nil => cases hn
  | cons c as ih =>
    cases n with
    | zero =>
      cases hn
      simp [ha, hb]
    | succ n =>
      rw [List.set_cons_succ, List.filterMap_cons, List.filterMap_cons, ih hn]

theorem filterMap_set_perm {α β : Type} {f : α → Option β} {as : List α} {n : Nat} {a b : α}
    {y : β} (hn : as[n]? = some a) (ha : f a = none) (hb : f b = some y) :
    ((as.set n b).filterMap f).Perm (y :: as.filterMap f) := by
  induction as generalizing n with
  | nil => cases hn
  | cons c as ih =>
    cases n with
    | zero =>
      cases hn
      simp [ha, hb]
    | succ n =>
      rw [List.set_cons_succ, List.filterMap_cons, List.filterMap_cons]
      cases f c with
      | none => exact ih hn
      | some z => exact ((ih hn).cons z).trans (List.Perm.swap ..)

/-! ### Traffic -/

/-- The clients' common state, and the calls that were begun, in order. -/
structure Traffic (clients : κ → BuilderClient (CallState ν)) where
  state : CallState ν
  calls : List (Entry fun k c => (clients k).Pending c) := []

/-- Something that is done to calls, which are numbered in the order in which
they were begun, or to the clock. -/
inductive TrafficEvent (κ : Type) where
  | begin (client : κ) (call : BuilderCall)
  | resume (call : Nat)
  | giveUp (call : Nat)
  | changeClock (change : Clock.Change)

/-- The calls that are begun. -/
def begun (events : List (TrafficEvent κ)) : List (κ × BuilderCall) :=
  events.filterMap fun
    | .begin k c => some (k, c)
    | _ => none

namespace Traffic

variable {clients : κ → BuilderClient (CallState ν)}

/-- Begins a call. -/
def begin (t : Traffic clients) (k : κ) (c : BuilderCall) : Traffic clients :=
  let (pending, state) := (clients k).start c t.state
  { state, calls := t.calls ++ [⟨k, c, t.state.site.clock.millis, .underway pending⟩] }

/-- Resumes a call that is under way. -/
def resume (t : Traffic clients) (n : Nat) : Traffic clients :=
  match t.calls[n]? with
  | some ⟨k, c, start, .underway pending⟩ =>
    match (clients k).resume c pending t.state with
    | (.answered result, state) =>
      { state, calls := t.calls.set n ⟨k, c, start, .answered result state.site.clock.millis⟩ }
    | (.pending pending, state) =>
      { state, calls := t.calls.set n ⟨k, c, start, .underway pending⟩ }
  | _ => t

/-- Gives up a call that is under way. -/
def giveUp (t : Traffic clients) (n : Nat) : Traffic clients :=
  match t.calls[n]? with
  | some ⟨k, c, start, .underway pending⟩ =>
    { state := (clients k).giveUp c pending t.state
      calls := t.calls.set n ⟨k, c, start, .givenUp⟩ }
  | _ => t

/-- Lets something happen. -/
def step (t : Traffic clients) : TrafficEvent κ → Traffic clients
  | .begin k c => t.begin k c
  | .resume n => t.resume n
  | .giveUp n => t.giveUp n
  | .changeClock change => { t with state.site.clock := t.state.site.clock.change change }

/-- Lets things happen in the given order. -/
def run (t : Traffic clients) (events : List (TrafficEvent κ)) : Traffic clients :=
  events.foldl step t

variable {t : Traffic clients} {n : Nat} {k : κ} {c : BuilderCall} {start : UInt64}
  {pending : (clients k).Pending c}

theorem resume_of_underway (hn : t.calls[n]? = some ⟨k, c, start, .underway pending⟩) :
    t.resume n =
      match (clients k).resume c pending t.state with
      | (.answered result, state) =>
        ⟨state, t.calls.set n ⟨k, c, start, .answered result state.site.clock.millis⟩⟩
      | (.pending pending, state) => ⟨state, t.calls.set n ⟨k, c, start, .underway pending⟩⟩ := by
  rw [resume, hn]

theorem giveUp_of_underway (hn : t.calls[n]? = some ⟨k, c, start, .underway pending⟩) :
    t.giveUp n = ⟨(clients k).giveUp c pending t.state, t.calls.set n ⟨k, c, start, .givenUp⟩⟩ := by
  rw [giveUp, hn]

end Traffic

/-! ### Plain and counted clients -/

/-- The state without its metrics is what plain clients act on. -/
def CallState.withMetrics (s : CallState ν) (m : MetricsRegistry) : CallState ν :=
  { s with site.metrics := m }

variable (d : κ → BuilderClient (ν × Clock))

/-- The builders as clients of a site. The calls that they are handed are noted
down in the state. -/
def watched (k : κ) : BuilderClient (CallState (List (κ × BuilderCall) × ν)) :=
  ((d k).onPart (fun s => (s.network.2, s.site.clock)) fun (network, clock) s =>
    { s with network := (s.network.1, network), site.clock := clock }).announced fun c s =>
      { s with network := (s.network.1 ++ [(k, c)], s.network.2) }

/-- The clients whose calls are counted under a name. -/
def counted (name : String) (d : κ → BuilderClient (ν × Clock)) (k : κ) :
    BuilderClient (CallState (List (κ × BuilderCall) × ν)) :=
  (watched d k).metered (CallState.metering name)

variable {d} {name : String}

/-- The builders do not look at the metrics. -/
theorem resume_withMetrics {k : κ} {c : BuilderCall} (pending : (watched d k).Pending c)
    (s : CallState (List (κ × BuilderCall) × ν)) (m : MetricsRegistry) :
    (watched d k).resume c pending (s.withMetrics m) =
      (((watched d k).resume c pending s).1,
        ((watched d k).resume c pending s).2.withMetrics m) := rfl

/-- What a counted client keeps of a call: when it was begun, besides what the
builder keeps. -/
def keep (k : κ) (c : BuilderCall) (start : UInt64) (pending : (watched d k).Pending c) :
    (counted name d k).Pending c := (start, pending)

/-- A counted call that is answered has its sample recorded. -/
theorem resume_counted {k : κ} {c : BuilderCall} (start : UInt64)
    (pending : (watched d k).Pending c) (s : CallState (List (κ × BuilderCall) × ν))
    (m : MetricsRegistry) :
    (counted name d k).resume c (keep k c start pending) (s.withMetrics m) =
      match (watched d k).resume c pending s with
      | (.answered result, s) =>
        (.answered result, s.withMetrics (m.recordIn name
          ⟨⟨c.method, Outcome.ofCall result⟩, Clock.elapsed start s.site.clock.millis⟩))
      | (.pending pending, s) => (.pending (keep k c start pending), s.withMetrics m) := by
  show ((watched d k).metered (CallState.metering name)).resume c (start, pending)
    (s.withMetrics m) = _
  rw [Delegate.resume_metered, resume_withMetrics]
  rcases (watched d k).resume c pending s with ⟨result | pending, s⟩ <;> rfl

namespace Traffic

/-- The traffic of counted clients that corresponds to that of plain ones. -/
def mirror (name : String) (t : Traffic (watched d)) (m : MetricsRegistry) :
    Traffic (counted name d) where
  state := t.state.withMetrics m
  calls := t.calls.map (Entry.map keep)

variable {t : Traffic (watched d)} {m : MetricsRegistry}

theorem calls_mirror (t : Traffic (watched d)) (m : MetricsRegistry) :
    (mirror name t m).calls = t.calls.map (Entry.map keep) := rfl

theorem getElem?_mirror (t : Traffic (watched d)) (m : MetricsRegistry) (n : Nat) :
    (mirror name t m).calls[n]? = t.calls[n]?.map (Entry.map keep) :=
  List.getElem?_map

theorem mirror_begin (k : κ) (c : BuilderCall) :
    (mirror name t m).begin k c = mirror name (t.begin k c) m := by
  unfold begin mirror
  rw [List.map_append]
  rfl

theorem samples_begin (k : κ) (c : BuilderCall) :
    samples (t.begin k c).calls = samples t.calls := by
  unfold begin samples
  rw [List.filterMap_append]
  exact List.append_nil _

theorem getElem?_mirror_underway {n : Nat} {k : κ} {c : BuilderCall} {start : UInt64}
    {pending : (watched d k).Pending c}
    (hn : t.calls[n]? = some ⟨k, c, start, .underway pending⟩) :
    (mirror name t m).calls[n]? = some ⟨k, c, start, .underway (keep k c start pending)⟩ := by
  rw [getElem?_mirror, hn]
  rfl

/-- A call that is answered is counted once, any other resumed call is not. -/
theorem mirror_resume (n : Nat) :
    ∃ xs, (samples (t.resume n).calls).Perm (xs ++ samples t.calls) ∧
      (mirror name t m).resume n = mirror name (t.resume n) (xs.foldl (.recordIn name) m) := by
  cases hn : t.calls[n]? with
  | none => exact ⟨[], by simp [resume, getElem?_mirror, hn]⟩
  | some e =>
    obtain ⟨k, c, start, stage⟩ := e
    cases stage with
    | underway pending =>
      rw [resume_of_underway hn, resume_of_underway (getElem?_mirror_underway hn)]
      rw [show (mirror name t m).state = t.state.withMetrics m from rfl, resume_counted]
      rcases (watched d k).resume c pending t.state with ⟨result | pending, state⟩
      · -- The entry has no sample until now and keeps the one it gets.
        refine ⟨[_], filterMap_set_perm hn rfl Entry.sample?_answered, ?_⟩
        simp only [mirror, List.map_set]
        rfl
      · refine ⟨[], .of_eq (filterMap_set_of_none hn rfl rfl), ?_⟩
        simp only [mirror, List.map_set]
        rfl
    | _ => exact ⟨[], by simp [resume, getElem?_mirror, hn, Entry.map]⟩

/-- A call that is given up is not counted. -/
theorem mirror_giveUp (n : Nat) :
    samples (t.giveUp n).calls = samples t.calls ∧
      (mirror name t m).giveUp n = mirror name (t.giveUp n) m := by
  cases hn : t.calls[n]? with
  | none => simp [giveUp, getElem?_mirror, hn]
  | some e =>
    obtain ⟨k, c, start, stage⟩ := e
    cases stage with
    | underway pending =>
      rw [giveUp_of_underway hn, giveUp_of_underway (getElem?_mirror_underway hn)]
      refine ⟨filterMap_set_of_none hn rfl rfl, ?_⟩
      simp only [mirror, List.map_set]
      rfl
    | _ => simp [giveUp, getElem?_mirror, hn, Entry.map]

theorem mirror_step (e : TrafficEvent κ) :
    ∃ xs, (samples (t.step e).calls).Perm (xs ++ samples t.calls) ∧
      (mirror name t m).step e = mirror name (t.step e) (xs.foldl (.recordIn name) m) := by
  cases e with
  | begin k c => exact ⟨[], .of_eq (samples_begin k c), mirror_begin k c⟩
  | resume n => exact mirror_resume n
  | giveUp n =>
    obtain ⟨hsamples, hmirror⟩ := mirror_giveUp (t := t) (m := m) n
    exact ⟨[], .of_eq hsamples, hmirror⟩
  | changeClock change => exact ⟨[], .refl _, rfl⟩

/-- Counted clients behave as the mirror of plain ones; what is recorded are the
samples of the calls that have been answered. -/
theorem mirror_run (events : List (TrafficEvent κ)) :
    ∃ xs, (samples (t.run events).calls).Perm (xs ++ samples t.calls) ∧
      (mirror name t m).run events = mirror name (t.run events) (xs.foldl (.recordIn name) m) := by
  induction events generalizing t m with
  | nil => exact ⟨[], .refl _, rfl⟩
  | cons e events ih =>
    obtain ⟨xs, hxs, hstep⟩ := mirror_step (t := t) (m := m) e
    obtain ⟨ys, hys, hrun⟩ := ih (t := t.step e) (m := xs.foldl (.recordIn name) m)
    refine ⟨xs ++ ys, ?_, ?_⟩
    · calc samples ((t.step e).run events).calls
        _ ~ ys ++ samples (t.step e).calls := hys
        _ ~ ys ++ (xs ++ samples t.calls) := hxs.append_left ys
        _ ~ xs ++ ys ++ samples t.calls := by
          rw [← List.append_assoc]
          exact List.perm_append_comm.append_right _
    · show ((mirror name t m).step e).run events = _
      rw [hstep, hrun, List.foldl_append]
      rfl

/-! ### Plain clients -/

/-- Whose call an entry is about. -/
def handed {π : κ → BuilderCall → Type} (es : List (Entry π)) : List (κ × BuilderCall) :=
  es.map fun e => (e.client, e.call)

theorem handed_set {π : κ → BuilderCall → Type} {es : List (Entry π)} {n : Nat} {e : Entry π}
    (hn : es[n]? = some e) (stage : Stage (π e.client e.call) (CallResult e.call.Payload)) :
    handed (es.set n { e with stage }) = handed es :=
  map_set_of_eq hn rfl

/-- What plain traffic leaves behind: the builders were handed the calls in
`calls`, and the metrics are as they were. -/
structure Handed (s : CallState (List (κ × BuilderCall) × ν)) (calls : List (κ × BuilderCall))
    (t : Traffic (watched d)) : Prop where
  noted : t.state.network.1 = s.network.1 ++ calls
  entries : handed t.calls = calls
  metrics : t.state.site.metrics = s.site.metrics

namespace Handed

variable {s : CallState (List (κ × BuilderCall) × ν)} {calls : List (κ × BuilderCall)}

theorem nothing (s : CallState (List (κ × BuilderCall) × ν)) :
    (⟨s, []⟩ : Traffic (watched d)).Handed s [] where
  noted := (List.append_nil _).symm
  entries := rfl
  metrics := rfl

theorem begin (h : t.Handed s calls) (k : κ) (c : BuilderCall) :
    (t.begin k c).Handed s (calls ++ [(k, c)]) where
  noted := by
    rw [← List.append_assoc, ← h.noted]
    rfl
  entries := by
    rw [← h.entries]
    exact List.map_append
  metrics := h.metrics

theorem resume (h : t.Handed s calls) (n : Nat) : (t.resume n).Handed s calls := by
  cases hn : t.calls[n]? with
  | none => simpa [Traffic.resume, hn] using h
  | some e =>
    obtain ⟨k, c, start, stage⟩ := e
    cases stage with
    | underway pending =>
      have hnoted : ((watched d k).resume c pending t.state).2.network.1 = t.state.network.1 := rfl
      have hmetrics : ((watched d k).resume c pending t.state).2.site.metrics =
        t.state.site.metrics := rfl
      rw [resume_of_underway hn]
      rcases hr : (watched d k).resume c pending t.state with ⟨result | pending, state⟩
      all_goals
        rw [hr] at hnoted hmetrics
        exact ⟨hnoted.trans h.noted, (handed_set hn _).trans h.entries, hmetrics.trans h.metrics⟩
    | _ => simpa [Traffic.resume, hn] using h

theorem giveUp (h : t.Handed s calls) (n : Nat) : (t.giveUp n).Handed s calls := by
  cases hn : t.calls[n]? with
  | none => simpa [Traffic.giveUp, hn] using h
  | some e =>
    obtain ⟨k, c, start, stage⟩ := e
    cases stage with
    | underway pending =>
      rw [giveUp_of_underway hn]
      exact ⟨h.noted, (handed_set hn _).trans h.entries, h.metrics⟩
    | _ => simpa [Traffic.giveUp, hn] using h

theorem run (h : t.Handed s calls) (events : List (TrafficEvent κ)) :
    (t.run events).Handed s (calls ++ begun events) := by
  induction events generalizing t calls with
  | nil =>
    rw [begun, List.filterMap_nil, List.append_nil]
    exact h
  | cons e events ih =>
    cases e with
    | begin k c =>
      rw [begun, List.filterMap_cons, List.append_cons]
      exact ih (h.begin k c)
    | resume n => exact ih (h.resume n)
    | giveUp n => exact ih (h.giveUp n)
    | changeClock change => exact ih ⟨h.noted, h.entries, h.metrics⟩

end Handed

end Traffic

/-! ### The main result -/

theorem samples_map {π τ : κ → BuilderCall → Type}
    (f : (k : κ) → (c : BuilderCall) → UInt64 → π k c → τ k c) (es : List (Entry π)) :
    samples (es.map (Entry.map f)) = samples es := by
  rw [samples, List.filterMap_map]
  exact List.filterMap_congr fun e _ => Entry.sample?_map f e

theorem handed_map {π τ : κ → BuilderCall → Type}
    (f : (k : κ) → (c : BuilderCall) → UInt64 → π k c → τ k c) (es : List (Entry π)) :
    Traffic.handed (es.map (Entry.map f)) = Traffic.handed es :=
  List.map_map

/-- Whatever the builders do, counting the calls to them changes no result and
nothing in the state but the counters that they are counted in, and the builders
are handed every call that is begun, once and in order.  The counts grow by the
samples of the calls that were answered, one for each. -/
theorem counted_exactly_once {name help : String} {bounds : List UInt64} {base : CounterMatrix}
    (hnew : CounterMatrix.new name help bounds = .ok base) (earlier : List Sample)
    (d : κ → BuilderClient (ν × Clock)) (s : CallState (List (κ × BuilderCall) × ν))
    (hmatrix : s.site.metrics.family? name = some (earlier.foldl CounterMatrix.record base))
    (events : List (TrafficEvent κ)) :
    let plain := (⟨s, []⟩ : Traffic (watched d)).run events
    let t := (⟨s, []⟩ : Traffic (counted name d)).run events
    t.calls.map Entry.report = plain.calls.map Entry.report ∧
    plain.state = t.state.withMetrics s.site.metrics ∧
    t.state.network.1 = s.network.1 ++ begun events ∧
    t.calls.map (fun e => (e.client, e.call)) = begun events ∧
    (∀ other ≠ name, t.state.site.metrics.family? other = s.site.metrics.family? other) ∧
    ∃ m, t.state.site.metrics.family? name = some m ∧ ∀ series bucket,
      m.count series bucket = (earlier.foldl CounterMatrix.record base).count series bucket +
        UInt64.ofNat (CounterMatrix.tally base.bounds (samples t.calls) series bucket) := by
  intro plain t
  have hproper := (CounterMatrix.proper_of_new hnew).foldl_record earlier
  have hplain : plain.Handed s (begun events) := (Traffic.Handed.nothing s).run events
  obtain ⟨xs, hxs, hmirror⟩ := Traffic.mirror_run (t := ⟨s, []⟩) (m := s.site.metrics) events
  rw [show samples [] = [] from rfl, List.append_nil] at hxs
  -- From here on `t` is the mirror of `plain`, with the samples `xs` recorded.
  have ht : t = Traffic.mirror name plain (xs.foldl (.recordIn name) s.site.metrics) := hmirror
  have hsamples : (samples t.calls).Perm xs := by
    rw [ht, Traffic.calls_mirror, samples_map]
    exact hxs
  have hfamily (other : String) : t.state.site.metrics.family? other = if other = name then
      (s.site.metrics.family? name).map (xs.foldl CounterMatrix.record)
      else s.site.metrics.family? other := by
    rw [ht]
    exact MetricsRegistry.family?_foldl_recordIn s.site.metrics name other xs
  refine ⟨?_, ?_, ?_, ?_, fun other hother => (hfamily other).trans (if_neg hother),
    xs.foldl CounterMatrix.record (earlier.foldl CounterMatrix.record base), ?_,
    fun series bucket => ?_⟩
  · rw [ht, Traffic.calls_mirror, List.map_map]
    exact List.map_congr_left fun e _ => Entry.report_map _ e
  · rw [ht, ← hplain.metrics]
    rfl
  · rw [ht]
    exact hplain.noted
  · rw [ht]
    exact (handed_map _ plain.calls).trans hplain.entries
  · rw [hfamily, if_pos rfl, hmatrix]
    rfl
  · rw [CounterMatrix.count_foldl_record hproper, CounterMatrix.bounds_foldl_record,
      CounterMatrix.tally_perm _ hsamples]

/-- Two clients of builders that are up but have no bid, turn registrations down and
deliver no payload, which takes them 150 milliseconds each time.  Of the five calls that
are begun one is answered after a second, three after the clock went back, and one is
given up. -/
theorem counted_exactly_once_methods :
    ∃ base r, CounterMatrix.new "calls" "Calls to a builder" [100, 500] = .ok base ∧
      MetricsRegistry.empty.register base = .ok r ∧
      let builder : BuilderClient (Unit × Clock) := .immediate fun c s =>
        (match c with
          | .status => .ok (.success ())
          | .registerValidators .. => .ok (.failure "400: no such validator")
          | .getHeader .. => .ok (.success none)
          | .getPayload _ => .error Http.noReplyInTime, (), s.2.advance 150)
      let s : CallState (List (Bool × BuilderCall) × Unit) :=
        ⟨{ dataDirectory := "./data", clock := ⟨7000⟩, metrics := r }, .new, [], ()⟩
      let block : SignedBlindedBeaconBlock :=
        ⟨⟨4, 0, .zero 32, .zero 32, Stub.header 7 3 (.zero 32)⟩, .zero 96⟩
      let events : List (TrafficEvent Bool) :=
        [.begin true .status, .begin false (.getHeader 3 (.zero 48) (.zero 32)),
          .changeClock ⟨some 850, none⟩, .resume 0, .begin true (.registerValidators 3 []),
          .begin false (.getPayload block), .begin false .status, .giveUp 4,
          .changeClock ⟨none, some 0⟩, .resume 1, .resume 2, .resume 3]
      let t := (⟨s, []⟩ : Traffic (counted "calls" fun (_ : Bool) => builder)).run events
      ∃ m, t.state.site.metrics.family? "calls" = some m ∧
        m.count ⟨"status", .success⟩ 2 = 1 ∧ m.count ⟨"get_header", .success⟩ 0 = 1 ∧
        m.count ⟨"register_validators", .error⟩ 0 = 1 ∧ m.count ⟨"get_payload", .error⟩ 0 = 1 ∧
        m.count ⟨"status", .success⟩ 0 = 0 := by
  have hnew : CounterMatrix.new "calls" "Calls to a builder" [100, 500] = .ok _ := rfl
  refine ⟨_, _, hnew, rfl, ?_⟩
  intro builder s block events
  have hmatrix : s.site.metrics.family? "calls" = some _ := rfl
  obtain ⟨-, -, -, -, -, m, hm, hcount⟩ :=
    counted_exactly_once hnew [] (fun (_ : Bool) => builder) s hmatrix events
  refine ⟨m, hm, ?_, ?_, ?_, ?_, ?_⟩
  all_goals
    rw [hcount]
    decide +kernel

end ExecutionLink
