/-
A service in use.

In a `Usage` a service is started and stopped, callers read its channel or take it out
of their receivers, and on every channel they have got hold of they begin calls, which
are resumed and given up in any order while the clock is changed.

* `Usage.Sound` — what is true of a usage at any time: the channel that callers hold
  is the published one, and the registry holds the counters that the channel needs and
  no others, which have recorded one sample for each answered call to the builder.
* `Usage.Sound.step`, `Usage.Sound.run` — every step preserves it.
-/
import ExecutionLink.Proofs.Channel.Calls
import ExecutionLink.Proofs.Metrics.Canonical
import ExecutionLink.Proofs.Service.Fleet
import ExecutionLink.Proofs.Service.Lifecycle

namespace ExecutionLink

variable {ν : Type}

/-! ### Usages -/

/-- A call on a channel, and how it stands. -/
structure ChannelUse (peers : Http.Transport (ν × Clock)) where
  channel : Channel
  call : ChannelCall
  stage : Stage ((channel.client (reached peers)).Pending call) (CallResult call.Payload)

/-- A service with its site and its peers, the channels that callers hold, and the
calls that were begun, in order. -/
structure Usage (peers : Http.Transport (ν × Clock)) where
  service : Service
  site : Site
  /-- The requests that were sent, and the state of the peers. -/
  network : List Http.Sent × ν
  held : List Channel := []
  calls : List (ChannelUse peers) := []

/-- Something that is done to a service, to a receiver, to a call on a channel that
is held, or to the clock. Calls and held channels are numbered in their order. -/
inductive UsageEvent where
  | start
  | stop
  | subscribe
  | readChannel
  | look (receiver : Nat)
  | drop (receiver : Nat)
  | begin (held : Nat) (call : ChannelCall)
  | resume (call : Nat)
  | giveUp (call : Nat)
  | changeClock (change : Clock.Change)

namespace Usage

variable {peers : Http.Transport (ν × Clock)}

/-- The usage of a service that has just been made. -/
def opened (peers : Http.Transport (ν × Clock)) (s : Service) (site : Site) (network : ν) :
    Usage peers :=
  { service := s, site, network := ([], network) }

/-- What calls act on. -/
def callState (u : Usage peers) : CallState (List Http.Sent × ν) :=
  ⟨u.site, u.service.numbering, u.network⟩

/-- The usage after something was done to what calls act on. -/
def withCalls (u : Usage peers) (s : CallState (List Http.Sent × ν))
    (calls : List (ChannelUse peers)) : Usage peers :=
  { u with service.numbering := s.numbering, site := s.site, network := s.network, calls }

/-- A holder looks at a receiver, and holds the channel that is taken out. -/
def look (u : Usage peers) (i : Nat) : Usage peers :=
  let (glance, channels) := u.service.channels.poll i
  let u := { u with service.channels := channels }
  match glance with
  | .ready channel => { u with held := u.held ++ [channel] }
  | _ => u

/-- Begins a call on a channel that is held. -/
def begin (u : Usage peers) (n : Nat) (c : ChannelCall) : Usage peers :=
  match u.held[n]? with
  | none => u
  | some channel =>
    let (pending, s) := (channel.client (reached peers)).start c u.callState
    u.withCalls s (u.calls ++ [⟨channel, c, .underway pending⟩])

/-- Resumes a call that is under way. -/
def resume (u : Usage peers) (n : Nat) : Usage peers :=
  match u.calls[n]? with
  | some ⟨channel, c, .underway pending⟩ =>
    match (channel.client (reached peers)).resume c pending u.callState with
    | (.answered result, s) =>
      u.withCalls s (u.calls.set n ⟨channel, c, .answered result s.site.clock.millis⟩)
    | (.pending pending, s) => u.withCalls s (u.calls.set n ⟨channel, c, .underway pending⟩)
  | _ => u

/-- Gives up a call that is under way. -/
def giveUp (u : Usage peers) (n : Nat) : Usage peers :=
  match u.calls[n]? with
  | some ⟨channel, c, .underway pending⟩ =>
    u.withCalls ((channel.client (reached peers)).giveUp c pending u.callState)
      (u.calls.set n ⟨channel, c, .givenUp⟩)
  | _ => u

/-- Lets something happen. -/
def step (u : Usage peers) : UsageEvent → Usage peers
  | .start =>
    let (_, service, site) := u.service.start u.site
    { u with service, site }
  | .stop =>
    let (_, service, site) := u.service.stop u.site
    { u with service, site }
  | .subscribe => { u with service := u.service.subscribe.2 }
  | .readChannel => { u with held := u.held ++ u.service.channel.toList }
  | .look i => u.look i
  | .drop i => { u with service.channels := u.service.channels.drop i }
  | .begin n c => u.begin n c
  | .resume n => u.resume n
  | .giveUp n => u.giveUp n
  | .changeClock change => { u with site.clock := u.site.clock.change change }

/-- Lets things happen in the given order. -/
def run (u : Usage peers) (events : List UsageEvent) : Usage peers :=
  events.foldl step u

end Usage

/-! ### What is registered -/

/-- The counters that a channel needs. -/
def Channel.counters : Channel → Option CounterMatrix
  | .live _ (some _) => some CounterMatrix.builderCounters
  | _ => none

theorem Channel.name_of_counters {channel : Channel} {m : CounterMatrix}
    (h : channel.counters = some m) : m.name = CounterMatrix.builderName := by
  unfold Channel.counters at h
  split at h
  · cases h
    rfl
  · cases h

theorem Service.matrices_openBuilder {site site' : Site} {b : Connection} {url : Url}
    (h : Service.openBuilder site b = (.ok url, site')) (hempty : site.metrics.matrices = []) :
    site'.metrics.matrices = [CounterMatrix.builderCounters] := by
  have hmetrics : site.metrics = .empty := MetricsRegistry.eq_empty_of_matrices hempty
  unfold Service.openBuilder at h
  cases hurl : b.liveUrl with
  | error e =>
    rw [hurl] at h
    cases h
  | ok v =>
    cases hregister : site.metrics.registerBuilder with
    | error e =>
      rw [hurl, hregister] at h
      cases h
    | ok metrics =>
      rw [hurl, hregister] at h
      cases h
      rw [hmetrics] at hregister
      exact MetricsRegistry.matrices_of_registerBuilder hregister

/-- Whoever opens a channel registers the counters that it needs. -/
theorem Service.matrices_openChannel {s : Service} {site site' : Site} {c : Channel}
    {numbering : Engine.Numbering} (h : s.openChannel site = (.ok (c, numbering), site'))
    (hempty : site.metrics.matrices = []) : site'.metrics.matrices = c.counters.toList := by
  cases hmode : s.engine.mode with
  | stub =>
    rw [Service.openChannel_of_stub site hmode] at h
    cases h
    exact hempty
  | live =>
    obtain ⟨url, hopen⟩ := Service.openChannel_of_live site hmode
    rw [hopen] at h
    cases hb : s.builder with
    | none =>
      rw [hb] at h
      cases h
      exact hempty
    | some b =>
      rcases hbuilder : Service.openBuilder site b with ⟨result, site₁⟩
      simp only [hb, hbuilder] at h
      cases result with
      | error e => cases h
      | ok v =>
        cases h
        exact Service.matrices_openBuilder hbuilder hempty

/-! ### The invariant -/

/-- Whether the engine is asked. -/
def ChannelCall.isQuestion : ChannelCall → Bool
  | .engineSyncing => true
  | .builder _ => false

namespace ChannelUse

variable {peers : Http.Transport (ν × Clock)}

/-- The series under which a call is counted, once it is answered. -/
def series? (e : ChannelUse peers) : Option Series :=
  match e with
  | ⟨channel, c, .answered result _⟩ => channel.series? c result
  | _ => none

/-- If the call was one to a builder that there is not, it was refused. -/
def Proper (e : ChannelUse peers) : Prop :=
  match e with
  | ⟨channel, c, .answered result _⟩ => channel.Answers c result
  | _ => True

end ChannelUse

namespace Usage

variable {peers : Http.Transport (ν × Clock)} {config : Configuration} {u : Usage peers}

/-- The requests that were sent are questions to engines, one for each call that asks
one. -/
def OnlyQuestions (u : Usage peers) : Prop :=
  ∃ questions : List (Url × UInt64),
    u.network.1 = questions.map (fun q => Engine.sent q.1 q.2) ∧
    questions.length = (u.calls.map (·.call)).countP ChannelCall.isQuestion

/-- What is true of a usage at any time, if its service was made with a configuration
on a site without metrics. -/
structure Sound (config : Configuration) (u : Usage peers) : Prop where
  atRest : u.service.AtRest
  connected : u.service.Connected config
  suits : ∀ c ∈ u.service.channel, c.Suits config
  held : ∀ c ∈ u.held, u.service.channel = some c
  used : ∀ e ∈ u.calls, u.service.channel = some e.channel
  proper : ∀ e ∈ u.calls, e.Proper
  counted : ∃ xs : List Sample,
    u.site.metrics.matrices =
      ((u.service.channel.bind Channel.counters).map (xs.foldl CounterMatrix.record)).toList ∧
    (xs.map Sample.series).Perm (u.calls.filterMap ChannelUse.series?)
  sent : config.engineMode = .live → config.builderEndpoint = none → u.OnlyQuestions

namespace Sound

/-- What is done to the service without publishing anything and without counting. -/
theorem other (h : u.Sound config) {service : Service} {site : Site} {held : List Channel}
    (hrest : service.AtRest) (hengine : service.engine = u.service.engine)
    (hbuilder : service.builder = u.service.builder)
    (hchannel : service.channel = u.service.channel) (hmetrics : site.metrics = u.site.metrics)
    (hheld : ∀ c ∈ held, u.service.channel = some c) :
    Sound config { u with service, site, held } where
  atRest := hrest
  connected := h.connected.congr hengine hbuilder
  suits := by
    rw [hchannel]
    exact h.suits
  held := by
    rw [hchannel]
    exact hheld
  used := by
    rw [hchannel]
    exact h.used
  proper := h.proper
  counted := by
    rw [hchannel, hmetrics]
    exact h.counted
  sent := h.sent

theorem readChannel (h : u.Sound config) : (u.step .readChannel).Sound config := by
  refine h.other h.atRest rfl rfl rfl rfl fun c hc => ?_
  rcases List.mem_append.mp hc with hc | hc
  · exact h.held c hc
  · exact Option.mem_toList.mp hc

theorem look (h : u.Sound config) (i : Nat) : (u.look i).Sound config := by
  have hpublished := ChannelRegistry.published_poll u.service.channels i
  have hrest : Service.AtRest { u.service with channels := (u.service.channels.poll i).2 } :=
    h.atRest.replace (h.atRest.consistent.poll i) hpublished (ChannelRegistry.pending_poll _ i)
  unfold Usage.look
  rcases hpoll : u.service.channels.poll i with ⟨glance, channels⟩
  rw [hpoll] at hrest hpublished
  cases glance with
  | ready channel =>
    refine h.other hrest rfl rfl hpublished rfl fun c hc => ?_
    rcases List.mem_append.mp hc with hc | hc
    · exact h.held c hc
    · rw [List.mem_singleton.mp hc]
      exact h.atRest.consistent.published_of_ready (congrArg Prod.fst hpoll)
  | _ => exact h.other hrest rfl rfl hpublished rfl h.held

/-- Before anything is published nobody holds a channel and nothing was counted. -/
theorem calls_eq_nil (h : u.Sound config) (hnone : u.service.channel = none) :
    u.held = [] ∧ u.calls = [] ∧ u.site.metrics.matrices = [] := by
  refine ⟨List.eq_nil_iff_forall_not_mem.mpr fun c hc => ?_,
    List.eq_nil_iff_forall_not_mem.mpr fun e he => ?_, ?_⟩
  · cases hnone.symm.trans (h.held c hc)
  · cases hnone.symm.trans (h.used e he)
  · obtain ⟨xs, hmatrices, -⟩ := h.counted
    rw [hmatrices, hnone]
    rfl

/-- The counters are registered with the channel that needs them. -/
theorem start (h : u.Sound config) : (u.step .start).Sound config := by
  unfold step
  rcases hstart : u.service.start u.site with ⟨result, s, site⟩
  cases result with
  | error e =>
    obtain ⟨rfl, hmetrics, -⟩ := Service.start_eq_error_unchanged h.atRest h.connected hstart
    exact h.other h.atRest rfl rfl rfl hmetrics h.held
  | ok v =>
    obtain ⟨hrest, hconnected, -⟩ :=
      Service.start_eq_ok_registers h.atRest h.connected hstart
    obtain ⟨hcreated, c, numbering, site₁, hopen, hdeliver⟩ := Service.start_eq_ok hstart
    obtain ⟨rfl, rfl⟩ := Prod.mk.inj hdeliver
    obtain ⟨hheld, hcalls, hempty⟩ := h.calls_eq_nil (h.atRest.created hcreated)
    refine ⟨hrest, hconnected, ?_, ?_, ?_, h.proper, ⟨[], ?_, ?_⟩, h.sent⟩
    · rintro d ⟨⟩
      exact Service.suits_of_openChannel h.connected hopen
    · show ∀ d ∈ u.held, _
      rw [hheld]
      exact List.forall_mem_nil _
    · show ∀ e ∈ u.calls, _
      rw [hcalls]
      exact List.forall_mem_nil _
    · show site₁.metrics.matrices = (c.counters.map id).toList
      rw [Service.matrices_openChannel hopen hempty, Option.map_id_fun, id_eq]
    · show ([] : List Series).Perm (u.calls.filterMap ChannelUse.series?)
      rw [hcalls]
      exact .refl _

/-- Calls that act on the site count what they are answered. -/
theorem withCalls (h : u.Sound config) {s : CallState (List Http.Sent × ν)} {r : List Sample}
    {calls : List (ChannelUse peers)}
    (hmetrics : s.site.metrics = r.foldl MetricsRegistry.record u.site.metrics)
    (hused : ∀ e ∈ calls, u.service.channel = some e.channel)
    (hproper : ∀ e ∈ calls, e.Proper)
    (hcounted : (r.map Sample.series ++ u.calls.filterMap ChannelUse.series?).Perm
      (calls.filterMap ChannelUse.series?))
    (hsent : config.engineMode = .live → config.builderEndpoint = none →
      (u.withCalls s calls).OnlyQuestions) : (u.withCalls s calls).Sound config where
  atRest := ⟨h.atRest.consistent, h.atRest.created, h.atRest.started, h.atRest.delivered⟩
  connected := h.connected.congr rfl rfl
  suits := h.suits
  held := h.held
  used := hused
  proper := hproper
  counted := by
    obtain ⟨ys, hmatrices, hys⟩ := h.counted
    refine ⟨ys ++ r, ?_, ?_⟩
    · show s.site.metrics.matrices = ((u.service.channel.bind Channel.counters).map _).toList
      rw [hmetrics]
      cases hcounters : u.service.channel.bind Channel.counters with
      | none =>
        rw [MetricsRegistry.matrices_foldl_record, hmatrices, hcounters]
        rfl
      | some m =>
        obtain ⟨channel, -, hm⟩ := Option.bind_eq_some_iff.mp hcounters
        have hname : (ys.foldl CounterMatrix.record m).name = CounterMatrix.builderName :=
          (CounterMatrix.alike_foldl_record m ys).name.trans (Channel.name_of_counters hm)
        rw [hcounters] at hmatrices
        rw [MetricsRegistry.matrices_foldl_record_singleton hmatrices hname, ← List.foldl_append]
        rfl
    · rw [List.map_append]
      exact List.perm_append_comm.trans ((hys.append_left _).trans hcounted)
  sent := hsent

/-- Without a builder in the configuration there is none on a live channel. -/
theorem noBuilder (h : u.Sound config) (hlive : config.engineMode = .live)
    (hnone : config.builderEndpoint = none) {channel : Channel}
    (hchannel : u.service.channel = some channel) :
    ∃ engine, channel = .live engine none := by
  obtain ⟨hmode, hbuilder⟩ := h.suits channel hchannel
  cases channel with
  | stub => cases hmode.trans hlive
  | live engine builder =>
    cases builder with
    | none => exact ⟨engine, rfl⟩
    | some url =>
      have hsome := (hbuilder engine (some url) rfl).mp rfl
      rw [hnone] at hsome
      cases hsome

theorem liveBuilder (h : u.Sound config) (hbuilder : config.HasLiveBuilder) {channel : Channel}
    (hchannel : u.service.channel = some channel) :
    ∃ engine builder, channel = .live engine (some builder) := by
  obtain ⟨hmode, hsuits⟩ := h.suits channel hchannel
  cases channel with
  | stub => cases hmode.trans hbuilder.1
  | live engine builder =>
    obtain ⟨url, rfl⟩ := Option.isSome_iff_exists.mp ((hsuits engine builder rfl).mpr hbuilder.2)
    exact ⟨engine, url, rfl⟩

/-- Channels without a live builder need no counters. -/
theorem matrices_eq_nil (h : u.Sound config) (hbuilder : ¬config.HasLiveBuilder) :
    u.site.metrics.matrices = [] := by
  obtain ⟨xs, hmatrices, -⟩ := h.counted
  rw [hmatrices]
  cases hchannel : u.service.channel with
  | none => rfl
  | some channel =>
    obtain ⟨hmode, hsuits⟩ := h.suits channel hchannel
    cases channel with
    | stub => rfl
    | live engine builder =>
      cases builder with
      | none => rfl
      | some url => exact absurd ⟨hmode.symm, (hsuits engine (some url) rfl).mp rfl⟩ hbuilder

theorem begin (h : u.Sound config) (n : Nat) (c : ChannelCall) : (u.begin n c).Sound config := by
  unfold Usage.begin
  cases hn : u.held[n]? with
  | none => exact h
  | some channel =>
    have hchannel : u.service.channel = some channel := h.held channel (List.mem_of_getElem? hn)
    have hstart := channel.start_client peers c u.callState
    dsimp only
    rcases (channel.client (reached peers)).start c u.callState with ⟨pending, s⟩
    obtain ⟨hmetrics, hnoted⟩ := Prod.mk.inj hstart
    refine h.withCalls (r := []) hmetrics ?_ ?_ ?_ ?_
    · intro e he
      rcases List.mem_append.mp he with he | he
      · exact h.used e he
      · rw [List.mem_singleton.mp he]
        exact hchannel
    · intro e he
      rcases List.mem_append.mp he with he | he
      · exact h.proper e he
      · rw [List.mem_singleton.mp he]
        trivial
    · rw [List.filterMap_append]
      exact .of_eq (List.append_nil _).symm
    · intro hlive hnone
      obtain ⟨questions, hquestions, hlength⟩ := h.sent hlive hnone
      obtain ⟨engine, rfl⟩ := h.noBuilder hlive hnone hchannel
      cases c with
      | engineSyncing =>
        refine ⟨questions ++ [(engine, u.service.numbering.next)], ?_, ?_⟩
        · rw [List.map_append, ← hquestions]
          exact hnoted
        · show _ = ((u.calls ++ [_]).map ChannelUse.call).countP _
          rw [List.length_append, hlength, List.map_append, List.countP_append]
          rfl
      | builder c =>
        refine ⟨questions, ?_, ?_⟩
        · rw [← hquestions]
          exact hnoted.trans (List.append_nil _)
        · show _ = ((u.calls ++ [_]).map ChannelUse.call).countP _
          rw [hlength, List.map_append, List.countP_append]
          rfl

/-- A call that is under way is replaced by what becomes of it. -/
theorem replace (h : u.Sound config) {n : Nat} {e d : ChannelUse peers}
    (hn : u.calls[n]? = some e) (hunderway : e.series? = none) (hchannel : d.channel = e.channel)
    (hcall : d.call = e.call) (hproper : d.Proper) {r : List Sample}
    {s : CallState (List Http.Sent × ν)}
    (hs : s.untouched = (r.foldl MetricsRegistry.record u.site.metrics, u.network.1))
    (hr : r.map Sample.series = d.series?.toList) :
    (u.withCalls s (u.calls.set n d)).Sound config := by
  obtain ⟨hmetrics, hnoted⟩ := Prod.mk.inj hs
  refine h.withCalls hmetrics ?_ ?_ ?_ ?_
  · intro a ha
    rcases List.mem_or_eq_of_mem_set ha with ha | rfl
    · exact h.used a ha
    · rw [hchannel]
      exact h.used e (List.mem_of_getElem? hn)
  · intro a ha
    rcases List.mem_or_eq_of_mem_set ha with ha | rfl
    · exact h.proper a ha
    · exact hproper
  · rw [hr]
    cases hcounted : d.series? with
    | none => exact .of_eq (filterMap_set_of_none hn hunderway hcounted).symm
    | some y => exact (filterMap_set_perm hn hunderway hcounted).symm
  · intro hlive hnone
    obtain ⟨questions, hquestions, hlength⟩ := h.sent hlive hnone
    refine ⟨questions, hnoted.trans hquestions, ?_⟩
    show _ = ((u.calls.set n d).map (·.call)).countP _
    rw [hlength, map_set_of_eq hn hcall]

theorem resume (h : u.Sound config) (n : Nat) : (u.resume n).Sound config := by
  unfold Usage.resume
  split
  · rename_i channel c pending hn
    obtain ⟨xs, huntouched, hxs⟩ := channel.resume_client peers c pending u.callState
    rcases hresume : (channel.client (reached peers)).resume c pending u.callState with
      ⟨result | pending', s⟩
    · rw [hresume] at huntouched hxs
      exact h.replace (d := ⟨channel, c, .answered result _⟩) hn rfl rfl rfl
        (Channel.answers_of_resume hresume) huntouched hxs
    · rw [hresume] at huntouched hxs
      exact h.replace (d := ⟨channel, c, .underway pending'⟩) hn rfl rfl rfl trivial huntouched
        hxs
  · exact h

theorem giveUp (h : u.Sound config) (n : Nat) : (u.giveUp n).Sound config := by
  unfold Usage.giveUp
  split
  · rename_i channel c pending hn
    have huntouched := channel.giveUp_client peers c pending u.callState
    exact h.replace (r := []) (d := ⟨channel, c, .givenUp⟩) hn rfl rfl rfl trivial huntouched rfl
  · exact h

theorem step (h : u.Sound config) (event : UsageEvent) : (u.step event).Sound config := by
  cases event with
  | start => exact h.start
  | stop => exact h.other (h.atRest.stop u.site) rfl rfl rfl rfl h.held
  | subscribe =>
    have hpublished := ChannelRegistry.published_subscribe u.service.channels
    exact h.other h.atRest.subscribe rfl rfl hpublished rfl h.held
  | readChannel => exact h.readChannel
  | look i => exact h.look i
  | drop i =>
    have hrest : Service.AtRest { u.service with channels := u.service.channels.drop i } :=
      h.atRest.replace (h.atRest.consistent.drop i) rfl rfl
    exact h.other hrest rfl rfl rfl rfl h.held
  | begin n c => exact h.begin n c
  | resume n => exact h.resume n
  | giveUp n => exact h.giveUp n
  | changeClock change => exact h.other h.atRest rfl rfl rfl rfl h.held

theorem run (h : u.Sound config) (events : List UsageEvent) : (u.run events).Sound config := by
  induction events generalizing u with
  | nil => exact h
  | cons event events ih => exact ih (h.step event)

theorem opened {site site' : Site} {s : Service} (hnew : Service.new site config = (.ok s, site'))
    (hfresh : site.metrics = .empty) (peers : Http.Transport (ν × Clock)) (network : ν) :
    (Usage.opened peers s site' network).Sound config := by
  obtain ⟨-, hchannels, hconnected, -⟩ := Service.new_eq_ok hnew
  have hnone : s.channel = none := by
    rw [Service.channel, hchannels]
    rfl
  have hmetrics : site'.metrics = .empty := by
    rw [← hfresh, ← Service.metrics_new site config, hnew]
  refine ⟨Service.atRest_of_new hnew, hconnected, ?_, List.forall_mem_nil _, List.forall_mem_nil _,
    List.forall_mem_nil _, ⟨[], ?_, .refl _⟩, fun _ _ => ⟨[], rfl, rfl⟩⟩
  · show ∀ c ∈ s.channel, _
    rw [hnone]
    intro c hc
    exact absurd hc (Option.not_mem_none c)
  · show site'.metrics.matrices = ((s.channel.bind _).map _).toList
    rw [hmetrics, hnone]
    rfl

end Sound

end Usage

end ExecutionLink
