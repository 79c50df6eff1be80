/-
What the metrics of a service say about the calls on its channel.

* `ChannelUse.endedWith` — whether a call to a builder came to an end, and how.
* `metrics_count_calls` — on the page of the metrics there are as many calls to the
  builder of each method and with each outcome as callers saw come to an end;
  without a live builder the page stays empty, and nobody is asked in its place.
-/
import ExecutionLink.Metrics.Page
import ExecutionLink.Proofs.Metrics.Sums
import ExecutionLink.Proofs.Service.Usage

namespace ExecutionLink

variable {ν : Type}

/-! ### What is counted -/

namespace ChannelUse

variable {peers : Http.Transport (ν × Clock)}

/-- Whether the call was one to a builder and came to an end. -/
def hasEnded (e : ChannelUse peers) : Bool :=
  match e with
  | ⟨_, .builder _, .answered _ _⟩ => true
  | _ => false

/-- Whether the call was one of a method of the builder and came to an end with an
outcome: a success if the caller was given an answer, and an error if the call was
refused or failed. -/
def endedWith (e : ChannelUse peers) (method : String) (outcome : Outcome) : Bool :=
  match e with
  | ⟨_, .builder c, .answered (.ok (.success _)) _⟩ => c.label = method ∧ outcome = .success
  | ⟨_, .builder c, .answered (.ok (.failure _)) _⟩ => c.label = method ∧ outcome = .error
  | ⟨_, .builder c, .answered (.error _) _⟩ => c.label = method ∧ outcome = .error
  | _ => false

theorem hasEnded_eq {e : ChannelUse peers} {engine builder : Url}
    (h : e.channel = .live engine (some builder)) : e.hasEnded = e.series?.isSome := by
  obtain ⟨channel, c, stage⟩ := e
  obtain rfl : channel = .live engine (some builder) := h
  cases c <;> cases stage <;> rfl

theorem endedWith_eq {e : ChannelUse peers} {engine builder : Url}
    (h : e.channel = .live engine (some builder)) (method : String) (outcome : Outcome) :
    e.endedWith method outcome = decide (e.series? = some ⟨method, outcome⟩) := by
  obtain ⟨channel, c, stage⟩ := e
  obtain rfl : channel = .live engine (some builder) := h
  have hseries (c : BuilderCall) (o : Outcome) :
      decide (c.label = method ∧ outcome = o) =
        decide (some (Series.mk c.label o) = some ⟨method, outcome⟩) := by
    refine decide_eq_decide.mpr ?_
    rw [Option.some.injEq, Series.mk.injEq, eq_comm (a := o)]
  cases stage with
  | answered result finish =>
    cases c with
    | engineSyncing => rfl
    | builder c =>
      rcases result with error | response
      · exact hseries c .error
      · cases response with
        | success payload => exact hseries c .success
        | failure message => exact hseries c .error
  | _ => cases c <;> rfl

end ChannelUse

theorem CounterMatrix.chooses_series (m : CounterMatrix) (method : String) (outcome : Outcome) :
    m.Chooses (fun l => l.method = method ∧ l.outcome = outcome.label)
      fun s => s = ⟨method, outcome⟩ := by
  intro s l hl
  obtain ⟨i, -, rfl⟩ := List.mem_map.mp hl
  have hiff : (s.method = method ∧ s.outcome.label = outcome.label) ↔ s = ⟨method, outcome⟩ := by
    constructor
    · rintro ⟨rfl, houtcome⟩
      rw [← Outcome.label_injective houtcome]
    · rintro rfl
      exact ⟨rfl, rfl⟩
  exact decide_eq_decide.mpr hiff

namespace Usage

variable {peers : Http.Transport (ν × Clock)} {config : Configuration} {u : Usage peers}

open Exposition

/-- What has been recorded so far is there to be read, and adds up to the calls that
have ended. -/
theorem readSamples_of_recorded {engine builder : Url} {xs : List Sample}
    (hchannel : ∀ e ∈ u.calls, e.channel = .live engine (some builder))
    (hmatrices : u.site.metrics.matrices =
      [xs.foldl CounterMatrix.record CounterMatrix.builderCounters])
    (hxs : (xs.map Sample.series).Perm (u.calls.filterMap ChannelUse.series?))
    (hfew : u.calls.length < Nat.pow 2 53) :
    ∃ readings, readSamples u.site.metrics.render = some readings ∧
      (∀ method outcome, total readings CounterMatrix.builderName method outcome.label =
        u.calls.countP (·.endedWith method outcome)) ∧
      (readings.map (·.value.toNat)).sum = u.calls.countP ChannelUse.hasEnded := by
  have hnew : CounterMatrix.builderRequests = .ok CounterMatrix.builderCounters :=
    CounterMatrix.builderRequests_eq
  have htidy : CounterMatrix.builderCounters.Tidy := CounterMatrix.tidy_of_new hnew
  have hname : (xs.foldl CounterMatrix.record CounterMatrix.builderCounters).name =
      CounterMatrix.builderName := (CounterMatrix.alike_foldl_record _ xs).name
  -- no more samples than calls, so they can be counted without wrapping around
  have hlength : xs.length ≤ u.calls.length := by
    calc xs.length = (xs.map Sample.series).length := (List.length_map _).symm
      _ = (u.calls.filterMap ChannelUse.series?).length := hxs.length_eq
      _ ≤ u.calls.length := List.length_filterMap_le _ _
  have hfits : CounterMatrix.builderCounters.family.sum (fun _ => true) + xs.length <
      UInt64.size := by
    have hbound : Nat.pow 2 53 < UInt64.size := by decide
    show 0 + xs.length < _
    omega
  have hsum {chosen : Labels → Bool} {series : Series → Bool}
      (hchosen : CounterMatrix.builderCounters.Chooses chosen series) :
      (xs.foldl CounterMatrix.record CounterMatrix.builderCounters).family.sum chosen =
        u.calls.countP fun e => (e.series?.map series).getD false := by
    rw [CounterMatrix.sum_foldl_record htidy hchosen xs hfits]
    show 0 + _ = _
    rw [Nat.zero_add, ← List.countP_filterMap, ← hxs.countP_eq, List.countP_map]
    rfl
  have hproper :
      isMetricName (xs.foldl CounterMatrix.record CounterMatrix.builderCounters).name := by
    rw [hname]
    exact CounterMatrix.isMetricName_builderName
  have hread := readSamples_text hproper
  rw [← MetricsRegistry.render_of_matrices hmatrices, hname] at hread
  refine ⟨_, hread, fun method outcome => ?_, ?_⟩
  · rw [CounterFamily.total_map_readingOf, hsum (CounterMatrix.chooses_series _ method outcome)]
    refine List.countP_congr fun e he => ?_
    rw [ChannelUse.endedWith_eq (hchannel e he)]
    cases e.series? <;> simp
  · have hall : CounterMatrix.builderCounters.Chooses (fun _ => true) fun _ => true :=
      fun _ _ _ => rfl
    rw [CounterFamily.sum_map_readingOf, hsum hall]
    refine List.countP_congr fun e he => ?_
    rw [ChannelUse.hasEnded_eq (hchannel e he)]
    cases e.series? <;> rfl

theorem Sound.readSamples_of_live (h : u.Sound config) (hbuilder : config.HasLiveBuilder)
    (hfew : u.calls.length < Nat.pow 2 53) :
    ∃ readings, readSamples u.site.metrics.render = some readings ∧
      (∀ method outcome, total readings CounterMatrix.builderName method outcome.label =
        u.calls.countP (·.endedWith method outcome)) ∧
      (readings.map (·.value.toNat)).sum = u.calls.countP ChannelUse.hasEnded := by
  obtain ⟨xs, hmatrices, hxs⟩ := h.counted
  cases hchannel : u.service.channel with
  | none =>
    -- nothing was published, so nobody could call
    obtain ⟨-, hcalls, hempty⟩ := h.calls_eq_nil hchannel
    rw [MetricsRegistry.render, hempty, hcalls]
    exact ⟨[], rfl, fun _ _ => rfl, rfl⟩
  | some channel =>
    obtain ⟨engine, builder, rfl⟩ := h.liveBuilder hbuilder hchannel
    rw [hchannel] at hmatrices
    have hcalls : ∀ e ∈ u.calls, e.channel = .live engine (some builder) := fun e he =>
      Option.some.inj ((h.used e he).symm.trans hchannel)
    exact readSamples_of_recorded hcalls hmatrices hxs hfew

end Usage

/-! ### The main result -/

open Exposition in
/-- On a registry of its own, a service with a live builder shows on the page of the
metrics, for each method and outcome, as many calls to the builder as callers saw
come to such an end, all intervals taken together, and no others.  Without a live
builder the page stays empty; where there is no builder next to a live engine, each
call to one is refused at once, changes nothing and sends nothing, so that only the
engine is ever sent requests. -/
theorem Service.metrics_count_calls {config : Configuration} {site site' : Site} {s : Service}
    (hnew : Service.new site config = (.ok s, site')) (hfresh : site.metrics = .empty)
    (peers : Http.Transport (ν × Clock)) (network : ν) (events : List UsageEvent) :
    let u := (Usage.opened peers s site' network).run events
    let page := MetricsPage.reply u.site.metrics "GET" "/metrics"
    page.status = 200 ∧
    (config.HasLiveBuilder → u.calls.length < Nat.pow 2 53 →
      ∃ readings, readSamples page.body = some readings ∧
        (∀ method outcome, total readings CounterMatrix.builderName method outcome.label =
          u.calls.countP (·.endedWith method outcome)) ∧
        (readings.map (·.value.toNat)).sum = u.calls.countP ChannelUse.hasEnded) ∧
    (¬config.HasLiveBuilder → page.body = "") ∧
    (config.engineMode = .live → config.builderEndpoint = none →
      (∀ channel ∈ u.held, ∀ c state,
        (channel.client (reached peers)).call (.builder c) state =
          (.answered (.error .builderNotConfigured), state)) ∧
      (∀ channel c result finish,
        ⟨channel, .builder c, .answered result finish⟩ ∈ u.calls →
          result = .error .builderNotConfigured) ∧
      u.OnlyQuestions) := by
  intro u page
  have h : u.Sound config := (Usage.Sound.opened hnew hfresh peers network).run events
  refine ⟨rfl, h.readSamples_of_live, ?_, fun hlive hnone => ⟨?_, ?_, h.sent hlive hnone⟩⟩
  · intro hbuilder
    show u.site.metrics.render = ""
    rw [MetricsRegistry.render, h.matrices_eq_nil hbuilder]
    rfl
  · intro channel hheld c state
    obtain ⟨engine, rfl⟩ := h.noBuilder hlive hnone (h.held channel hheld)
    exact Channel.call_noBuilder peers engine c state
  · intro channel c result finish hmem
    obtain ⟨engine, rfl⟩ := h.noBuilder hlive hnone (h.used _ hmem)
    exact h.proper _ hmem

open Exposition in
/-- A builder that is up but has nothing to offer, next to an engine: of five calls to it
one is given up, two are answered without data, and the question to the engine is not
counted. -/
theorem Service.metrics_count_calls_served :
    ∃ s site',
      Service.new { dataDirectory := "./data", clock := ⟨7000⟩ }
        { engineEndpoint := some "http://1", builderEndpoint := some "http://2" } =
          (.ok s, site') ∧
      let peers : Http.Transport (Unit × Clock) :=
        .immediate fun _ s => (.ok ⟨200, ""⟩, (), s.2.advance 150)
      let block : SignedBlindedBeaconBlock :=
        ⟨⟨4, 0, .zero 32, .zero 32, Stub.header 7 3 (.zero 32)⟩, .zero 96⟩
      let events : List UsageEvent :=
        [.subscribe, .start, .look 0, .begin 0 (.builder .status), .begin 0 .engineSyncing,
          .begin 0 (.builder (.getHeader 3 (.zero 48) (.zero 32))),
          .begin 0 (.builder (.registerValidators 3 [])), .begin 0 (.builder (.getPayload block)),
          .begin 0 (.builder .status), .resume 1, .giveUp 5, .resume 0, .resume 4, .resume 3,
          .resume 2]
      let u := (Usage.opened peers s site' ()).run events
      ∃ readings,
        readSamples (MetricsPage.reply u.site.metrics "GET" "/metrics").body = some readings ∧
        total readings CounterMatrix.builderName "status" "SUCCESS" = 1 ∧
        total readings CounterMatrix.builderName "register_validators" "SUCCESS" = 1 ∧
        total readings CounterMatrix.builderName "get_header" "ERROR" = 1 ∧
        total readings CounterMatrix.builderName "get_payload" "ERROR" = 1 ∧
        (readings.map (·.value.toNat)).sum = 4 := by
  have hnew : Service.new { dataDirectory := "./data", clock := ⟨7000⟩ }
    { engineEndpoint := some "http://1", builderEndpoint := some "http://2" } = (.ok _, _) := rfl
  refine ⟨_, _, hnew, ?_⟩
  intro peers block events
  have hall := Service.metrics_count_calls hnew rfl peers () events
  have hpage := hall.2.1 ⟨rfl, rfl⟩ (by decide +kernel)
  obtain ⟨readings, hread, htotal, hsum⟩ := hpage
  refine ⟨readings, hread, ?_, ?_, ?_, ?_, hsum.trans (by decide +kernel)⟩
  · exact (htotal "status" .success).trans (by decide +kernel)
  · exact (htotal "register_validators" .success).trans (by decide +kernel)
  · exact (htotal "get_header" .error).trans (by decide +kernel)
  · exact (htotal "get_payload" .error).trans (by decide +kernel)

end ExecutionLink
