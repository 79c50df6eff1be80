/-
What callers of a service can rely on.

A `Session` is a service that is called again and again, with every answer that
was given.  Calls come one at a time and in any order; in between, holders of
receivers may look at them or drop them, and others may use the site.

* `ServiceState.Leads` — the ways in which the state may change; nothing leads
  out of the last one.
* `Session.Sound` — what every call preserves: a session with a published
  channel is one in which a start has succeeded, just once, and the operator was
  warned of a stub then and at no other time.
* `lifecycle` — what follows for all sessions of a service.
-/
import ExecutionLink.Proofs.Service.Starting

namespace ExecutionLink

/-- One state comes right after another. -/
inductive ServiceState.Leads : ServiceState → ServiceState → Prop
  | start : Leads .created .started
  | abandon : Leads .created .stopped
  | stop : Leads .started .stopped

/-- The channel is of the kind that the configuration asks for. -/
structure Channel.Suits (c : Channel) (config : Configuration) : Prop where
  mode : c.mode = config.engineMode
  builder : ∀ engine builder, c = .live engine builder →
    (builder.isSome ↔ config.builderEndpoint.isSome)

namespace Service

variable {config : Configuration} {site site' : Site} {s : Service}

theorem suits_of_openChannel (hs : s.Connected config) {c : Channel}
    {numbering : Engine.Numbering} (h : s.openChannel site = (.ok (c, numbering), site')) :
    c.Suits config := by
  obtain ⟨hmode, hbuilder, -⟩ := openChannel_eq_ok h
  refine ⟨hmode.trans hs.engine_mode, fun engine builder hd => ?_⟩
  rw [hbuilder engine builder hd, hs.builder_isSome]

/-! ### Sessions -/

/-- What can be asked of a service or happen to its receivers and its site. -/
inductive Call where
  | start
  | stop
  | subscribe
  | readChannel
  | readState
  | look (receiver : Nat)
  | drop (receiver : Nat)
  /-- The clock goes on, or other services use the metrics. -/
  | elsewhere (clock : Clock) (metrics : MetricsRegistry)

/-- The answer to a call. -/
inductive Reply where
  | done (result : Except ServiceError Unit)
  | receiver (number : Nat)
  | channel (channel : Option Channel)
  | state (state : ServiceState)
  | glance (glance : Glance Channel)
  | nothing

/-- Makes a call. -/
def answer (s : Service) (site : Site) : Call → Reply × Service × Site
  | .start =>
    let (result, s, site) := s.start site
    (.done result, s, site)
  | .stop =>
    let (result, s, site) := s.stop site
    (.done result, s, site)
  | .subscribe =>
    let (i, s) := s.subscribe
    (.receiver i, s, site)
  | .readChannel => (.channel s.channel, s, site)
  | .readState => (.state s.state, s, site)
  | .look i =>
    let (glance, channels) := s.channels.poll i
    (.glance glance, { s with channels }, site)
  | .drop i => (.nothing, { s with channels := s.channels.drop i }, site)
  | .elsewhere clock metrics => (.nothing, s, { site with clock, metrics })

/-- A service with the calls made so far and the answers to them. -/
structure Session where
  service : Service
  site : Site
  history : List (Call × Reply) := []

/-- Whether a call was a start that succeeded. -/
def startSucceeded : Call × Reply → Bool
  | (.start, .done (.ok ())) => true
  | _ => false

namespace Session

/-- The session of a service that has just been made. -/
def opened (s : Service) (site : Site) : Session := { service := s, site }

/-- Makes a call and notes the answer. -/
def call (x : Session) (a : Call) : Session :=
  let (reply, service, site) := x.service.answer x.site a
  { service, site, history := x.history ++ [(a, reply)] }

/-- Makes calls in the given order. -/
def after (x : Session) (calls : List Call) : Session := calls.foldl call x

/-- Whether a start has succeeded. -/
def started (x : Session) : Bool := x.history.any startSucceeded

theorem state_call_stop (x : Session) : (x.call .stop).service.state = .stopped := rfl

/-- Only a new service is started. -/
theorem state_call_start {x : Session} (h : (x.service.start x.site).1 = .ok ()) :
    x.service.state = .created ∧ (x.call .start).service.state = .started := by
  unfold call answer
  rcases hstart : x.service.start x.site with ⟨result, s, site⟩
  rw [hstart] at h
  obtain rfl : result = .ok () := h
  obtain ⟨hcreated, c, numbering, site₁, -, hdeliver⟩ := start_eq_ok hstart
  obtain ⟨rfl, rfl⟩ := Prod.mk.inj hdeliver
  exact ⟨hcreated, rfl⟩

/-- A call moves the state along or leaves it as it is. -/
theorem state_call (x : Session) (a : Call) :
    (x.call a).service.state = x.service.state ∨
      x.service.state.Leads (x.call a).service.state := by
  cases a with
  | start =>
    cases hresult : (x.service.start x.site).1 with
    | error e =>
      left
      unfold call answer
      exact congrArg state (start_eq_error (Prod.ext hresult rfl)).1
    | ok v =>
      obtain ⟨hcreated, hstarted⟩ := state_call_start hresult
      right
      rw [hcreated, hstarted]
      exact .start
  | stop =>
    rw [state_call_stop]
    cases x.service.state with
    | created => exact .inr .abandon
    | started => exact .inr .stop
    | stopped => exact .inl rfl
  | _ => exact .inl rfl

/-! ### The invariant of a session -/

/-- What is true of a session at any time, if its service was made on a site
with a configuration. -/
structure Sound (config : Configuration) (site : Site) (x : Session) : Prop where
  atRest : x.service.AtRest
  connected : x.service.Connected config
  starts : x.history.countP startSucceeded = if x.service.channel.isSome then 1 else 0
  stops : ∀ reply, (.stop, reply) ∈ x.history → reply = .done (.ok ())
  suits : ∀ c ∈ x.service.channel, c.Suits config
  warned : x.site.operatorEvents =
    site.operatorEvents ++ if x.service.channel.isSome then warnings config.engineMode else []

namespace Sound

variable {x : Session}

theorem opened (hnew : new site config = (.ok s, site')) :
    (Session.opened s site').Sound config site := by
  obtain ⟨-, hchannels, hconnected, hlog⟩ := new_eq_ok hnew
  have hnone : s.channel = none := by
    rw [channel, hchannels]
    rfl
  refine ⟨atRest_of_new hnew, hconnected, ?_, fun _ hmem => absurd hmem List.not_mem_nil, ?_, ?_⟩
  · simp [Session.opened, hnone]
  · simp [Session.opened, hnone]
  · simp [Session.opened, hnone, hlog]

/-- A call that publishes nothing and tells the operator nothing preserves the
invariant. -/
theorem other (h : x.Sound config site) {a : Call} {reply : Reply} {s : Service} {site' : Site}
    (hrest : s.AtRest) (hengine : s.engine = x.service.engine)
    (hbuilder : s.builder = x.service.builder) (hchannel : s.channel = x.service.channel)
    (hlog : site'.operatorEvents = x.site.operatorEvents)
    (hstart : startSucceeded (a, reply) = false) (hstop : a = .stop → reply = .done (.ok ())) :
    Sound config site ⟨s, site', x.history ++ [(a, reply)]⟩ where
  atRest := hrest
  connected := h.connected.congr hengine hbuilder
  starts := by
    rw [List.countP_append, List.countP_singleton, hstart, h.starts, hchannel]
    rfl
  stops r hr := by
    rcases List.mem_append.mp hr with hr | hr
    · exact h.stops r hr
    · rw [List.mem_singleton, Prod.mk.injEq] at hr
      rw [hr.2]
      exact hstop hr.1.symm
  suits := by
    rw [hchannel]
    exact h.suits
  warned := by rw [hlog, h.warned, hchannel]

/-- The channel of a start is the one that was configured, and this is when the
operator is warned. -/
theorem start (h : x.Sound config site) : (x.call .start).Sound config site := by
  unfold call answer
  rcases hstart : x.service.start x.site with ⟨result, s, site'⟩
  cases result with
  | error e =>
    -- What a refused start logs is not meant for the operator.
    obtain ⟨rfl, hopen⟩ := start_eq_error hstart
    exact h.other h.atRest rfl rfl rfl (h.atRest.operatorEvents_of_error hopen) rfl nofun
  | ok v =>
    -- Before, nothing was published: no start had succeeded and nobody was warned.
    obtain ⟨hcreated, c, numbering, site₁, hopen, hdeliver⟩ := start_eq_ok hstart
    obtain ⟨rfl, rfl⟩ := Prod.mk.inj hdeliver
    obtain ⟨-, -, hlog⟩ := openChannel_eq_ok hopen
    have hnone : x.service.channels.published = none := h.atRest.created hcreated
    have hset : x.service.channels.setPublished c = .ok _ :=
      ChannelRegistry.setPublished_eq_ok.mpr ⟨hnone, rfl⟩
    have hconsistent := h.atRest.consistent.setPublished hset
    refine ⟨atRest_deliver site₁ hconsistent rfl, h.connected.congr rfl rfl, ?_, ?_, ?_, ?_⟩
    · rw [List.countP_append, h.starts, channel, hnone]
      rfl
    · intro reply hr
      exact h.stops reply (by simpa using hr)
    · rintro d ⟨⟩
      exact suits_of_openChannel h.connected hopen
    · have hbefore := h.warned
      rw [channel, hnone] at hbefore
      simp_all [deliver, publishedEvent, engineEvent, channel, h.connected.engine_mode]

theorem call (h : x.Sound config site) (a : Call) : (x.call a).Sound config site := by
  cases a with
  | start => exact h.start
  | stop =>
    refine h.other (h.atRest.stop x.site) rfl rfl rfl ?_ rfl fun _ => rfl
    simp [stoppedEvent]
  | subscribe =>
    exact h.other h.atRest.subscribe rfl rfl (ChannelRegistry.published_subscribe _) rfl rfl nofun
  | look i =>
    have hpublished := ChannelRegistry.published_poll x.service.channels i
    refine h.other ?_ rfl rfl hpublished rfl rfl nofun
    exact h.atRest.replace (h.atRest.consistent.poll i) hpublished
      (ChannelRegistry.pending_poll _ i)
  | drop i =>
    refine h.other ?_ rfl rfl rfl rfl rfl nofun
    exact h.atRest.replace (h.atRest.consistent.drop i) rfl rfl
  | _ => exact h.other h.atRest rfl rfl rfl rfl rfl nofun

theorem after (h : x.Sound config site) (calls : List Call) :
    (x.after calls).Sound config site := by
  induction calls generalizing x with
  | nil => exact h
  | cons a calls ih => exact ih (h.call a)

theorem started_iff (h : x.Sound config site) : x.started ↔ x.service.channel.isSome := by
  have hstarts := h.starts
  rw [started, List.any_eq_true, ← List.countP_pos_iff, hstarts]
  by_cases hsome : x.service.channel.isSome <;> simp [hsome]

/-- What is published stays published: a start would come too late. -/
theorem channel_call (h : x.Sound config site) {c : Channel} (hc : x.service.channel = some c)
    (a : Call) : (x.call a).service.channel = some c := by
  cases a with
  | start =>
    have hlate : x.service.state ≠ .created := by
      intro hcreated
      cases hc.symm.trans (h.atRest.created hcreated)
    unfold Session.call answer
    rw [start_late hlate]
    exact hc
  | subscribe => exact (ChannelRegistry.published_subscribe _).trans hc
  | look i => exact (ChannelRegistry.published_poll _ i).trans hc
  | _ => exact hc

theorem channel_after (h : x.Sound config site) {c : Channel} (hc : x.service.channel = some c)
    (calls : List Call) : (x.after calls).service.channel = some c := by
  induction calls generalizing x with
  | nil => exact hc
  | cons a calls ih => exact ih (h.call a) (h.channel_call hc a)

end Sound

end Session

/-! ### The main result -/

/-- In every session of a new service the state only moves along; stopping
succeeds and leaves it stopped, and starting succeeds at most once, never after a
stop, and leaves it started; the channel
appears with the start that succeeds, is the one that was configured and never
changes; and the operator is warned of the stub once if it was started, and
told nothing else. -/
theorem lifecycle (hnew : new site config = (.ok s, site')) (calls : List Call) :
    let x := (Session.opened s site').after calls
    (∀ a, (x.call a).service.state = x.service.state ∨
      x.service.state.Leads (x.call a).service.state) ∧
    (x.call .stop).service.state = .stopped ∧
    ((x.service.start x.site).1 = .ok () →
      x.service.state = .created ∧ (x.call .start).service.state = .started) ∧
    (∀ reply, (.stop, reply) ∈ x.history → reply = .done (.ok ())) ∧
    x.history.countP startSucceeded ≤ 1 ∧
    (x.service.state ≠ .created → ∃ reason,
      x.service.start x.site = (.error (.invalidState reason), x.service, x.site)) ∧
    (x.service.channel.isSome ↔ x.started) ∧
    (∀ c, x.service.channel = some c →
      c.Suits config ∧ ∀ later, (x.after later).service.channel = some c) ∧
    (x.service.liveEngine.isSome ↔ config.engineMode = .live) ∧
    x.site.operatorEvents = site.operatorEvents ++
      if config.engineMode = .stub ∧ x.started then [stubWarning] else [] := by
  intro x
  have h : x.Sound config site := (Session.Sound.opened hnew).after calls
  refine ⟨x.state_call, x.state_call_stop, Session.state_call_start, h.stops, ?_, ?_,
    h.started_iff.symm, ?_, ?_, ?_⟩
  · rw [h.starts]
    split <;> omega
  · intro hlate
    exact ⟨_, start_late hlate⟩
  · intro c hc
    exact ⟨h.suits c hc, h.channel_after hc⟩
  · rw [liveEngine, h.connected.engine_mode]
    by_cases hlive : config.engineMode = .live <;> simp [hlive]
  · rw [h.warned]
    have hstarted := h.started_iff
    cases hmode : config.engineMode <;> by_cases hsome : x.service.channel.isSome <;>
      simp_all [warnings]

/-- A session that stops a stub after starting it twice. -/
theorem lifecycle_stub :
    ∃ s site', new { dataDirectory := "./data", clock := ⟨0⟩ } .stub = (.ok s, site') ∧
      let x := (Session.opened s site').after [.subscribe, .start, .start, .stop, .readChannel]
      x.started ∧ (∃ c, x.service.channel = some c ∧ c.mode = .stub) ∧
        (x.call .stop).service.state = .stopped ∧
        x.site.operatorEvents = [stubWarning] ∧
        ∃ reason, (x.service.start x.site).1 = .error (.invalidState reason) := by
  have hnew : new { dataDirectory := "./data", clock := ⟨0⟩ } .stub = (.ok _, _) := rfl
  refine ⟨_, _, hnew, ?_⟩
  intro x
  have hstarted : x.started := rfl
  obtain ⟨-, hstop, -, -, -, hlate, hchannel, hsuits, -, hlog⟩ :=
    lifecycle hnew [.subscribe, .start, .start, .stop, .readChannel]
  obtain ⟨c, hc⟩ := Option.isSome_iff_exists.mp (hchannel.mpr hstarted)
  obtain ⟨reason, hreason⟩ := hlate (by decide)
  rw [if_pos ⟨rfl, hstarted⟩] at hlog
  exact ⟨hstarted, ⟨c, hc, (hsuits c hc).1.mode⟩, hstop, hlog, reason, congrArg Prod.fst hreason⟩

end Service

end ExecutionLink
