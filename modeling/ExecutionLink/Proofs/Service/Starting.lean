/-
How a service comes to its channel.

Making a service decides what its channel will be (`Connected`): the modes of
its connections are those that the configuration selects, and a live service
has a builder exactly if one is configured.  `openChannel_eq_ok` says which
channel a service opens and what the operator is told of it;
`openAndPublish_eq_ok` and `openAndPublish_eq_error` invert the first step of a
start, and `start_eq_ok` and `start_eq_error` a whole one.  A start that fails
leaves the service as it was.

* `AtRest` — what is true of a service whenever no start is under way: nothing
  is published before the start, something is published after it, and nobody is
  pending for a channel that is published.
-/
import ExecutionLink.Proofs.Channel.Receivers
import ExecutionLink.Service

namespace ExecutionLink

@[simp] theorem Site.operatorEvents_tell (s : Site) (events : List LogEvent) :
    (s.tell events).operatorEvents =
      s.operatorEvents ++ events.filter (·.topic = .operator) := by
  unfold operatorEvents tell
  rw [List.filter_append]

/-! ### Connections -/

namespace Connection

/-- The mode of a connection is the one that its endpoint selects. -/
theorem mode_of_connect {endpoint secretFile : Option String} {timeout : UInt64}
    {directory : String} {c : Connection}
    (h : connect endpoint timeout secretFile directory = .ok c) :
    c.mode = .ofEndpoint endpoint := by
  unfold connect resolve at h
  cases hm : EndpointMode.ofEndpoint endpoint with
  | stub =>
    simp only [hm, Except.map, Except.ok.injEq] at h
    rw [← h]
    rfl
  | live =>
    simp only [hm] at h
    cases hu : parseUrl (Text.trim (endpoint.getD "")) with
    | error e => simp [hu, Except.map] at h
    | ok url =>
      simp only [hu, Except.map, Except.ok.injEq] at h
      rw [← h]
      rfl

theorem url_of_live {c : Connection} (h : c.mode = .live) : ∃ url, c.url = some url := by
  cases hurl : c.url with
  | none => simp [mode, hurl] at h
  | some url => exact ⟨url, rfl⟩

/-- The client of a live engine numbers its requests afresh. -/
theorem engineClient_of_live {c : Connection} (h : c.mode = .live) :
    ∃ url, c.engineClient = .ok (.new url) := by
  obtain ⟨url, hurl⟩ := url_of_live h
  refine ⟨url, ?_⟩
  rw [engineClient, liveUrl, hurl]
  rfl

end Connection

theorem EndpointMode.checkAgreement_eq_ok {engine : EndpointMode} {builder : Option EndpointMode} :
    engine.checkAgreement builder = .ok () ↔ ∀ b ∈ builder, b = engine := by
  unfold checkAgreement
  cases builder with
  | none => simp
  | some b => by_cases h : engine = b <;> simp [h, eq_comm]

namespace Service

variable {s s' : Service} {site site' : Site} {config : Configuration}

/-! ### Making a service -/

/-- What a service is connected to, as its configuration has it. -/
structure Connected (s : Service) (config : Configuration) : Prop where
  engine_mode : s.engine.mode = config.engineMode
  builder_isSome : s.builder.isSome = config.builderEndpoint.isSome
  builder_mode : ∀ b ∈ s.builder, b.mode = s.engine.mode

theorem connect_eq_ok {endpoint secretFile : Option String} {c : Connection}
    (h : connect site endpoint secretFile = (.ok c, site')) :
    c.mode = .ofEndpoint endpoint ∧ site'.operatorEvents = site.operatorEvents := by
  unfold connect at h
  split at h
  · rename_i c' hc
    simp only [Prod.mk.injEq, Except.ok.injEq] at h
    obtain ⟨rfl, rfl⟩ := h
    exact ⟨Connection.mode_of_connect hc, by simp [Connection.openedEvent]⟩
  · simp at h

theorem connectBuilder_eq_ok {endpoint : Option String} {b : Option Connection}
    (h : connectBuilder site endpoint = (.ok b, site')) :
    b.isSome = endpoint.isSome ∧ site'.operatorEvents = site.operatorEvents := by
  unfold connectBuilder at h
  cases endpoint with
  | none =>
    simp only [Prod.mk.injEq, Except.ok.injEq] at h
    obtain ⟨rfl, rfl⟩ := h
    exact ⟨rfl, rfl⟩
  | some text =>
    rcases hc : connect site (some text) none with ⟨result, site₁⟩
    simp only [hc, Prod.mk.injEq] at h
    obtain ⟨hb, rfl⟩ := h
    cases result with
    | error e => cases hb
    | ok c =>
      cases hb
      exact ⟨rfl, (connect_eq_ok hc).2⟩

theorem Connected.congr (h : s.Connected config) (hengine : s'.engine = s.engine)
    (hbuilder : s'.builder = s.builder) : s'.Connected config where
  engine_mode := by rw [hengine, h.engine_mode]
  builder_isSome := by rw [hbuilder, h.builder_isSome]
  builder_mode := by
    rw [hbuilder, hengine]
    exact h.builder_mode

/-- A service that was made has seen nothing yet and is connected as it was
configured. -/
theorem new_eq_ok (h : new site config = (.ok s, site')) :
    s.state = .created ∧ s.channels = .empty ∧ s.Connected config ∧
      site'.operatorEvents = site.operatorEvents := by
  unfold new at h
  split at h
  · simp at h
  · rename_i engine site₁ hengine
    split at h
    · simp at h
    · rename_i builder site₂ hbuilder
      split at h
      · simp at h
      · rename_i hagree
        simp only [Prod.mk.injEq, Except.ok.injEq] at h
        obtain ⟨rfl, rfl⟩ := h
        obtain ⟨hmode, hlog₁⟩ := connect_eq_ok hengine
        obtain ⟨hsome, hlog₂⟩ := connectBuilder_eq_ok hbuilder
        refine ⟨rfl, rfl, ⟨hmode, hsome, ?_⟩, hlog₂.trans hlog₁⟩
        intro b hb
        exact EndpointMode.checkAgreement_eq_ok.mp hagree b.mode (Option.mem_map_of_mem _ hb)

/-! ### Opening a channel -/

/-- What the operator is told when a channel is opened. -/
def warnings : EndpointMode → List LogEvent
  | .stub => [stubWarning]
  | .live => []

theorem openBuilder_eq_ok {b : Connection} {url : Url}
    (h : openBuilder site b = (.ok url, site')) :
    b.url = some url ∧ site'.operatorEvents = site.operatorEvents := by
  unfold openBuilder Connection.liveUrl at h
  cases hb : b.url with
  | none => simp [hb] at h
  | some u =>
    simp only [hb] at h
    split at h
    · simp at h
    · simp only [Prod.mk.injEq, Except.ok.injEq] at h
      obtain ⟨rfl, rfl⟩ := h
      refine ⟨rfl, ?_⟩
      rw [Site.operatorEvents_tell]
      simp [builderEvent, Site.operatorEvents]

theorem openBuilder_eq_error {b : Connection} {e : ServiceError}
    (h : openBuilder site b = (.error e, site')) : site' = site := by
  unfold openBuilder at h
  split at h
  · simp only [Prod.mk.injEq] at h
    exact h.2.symm
  · split at h
    · simp only [Prod.mk.injEq] at h
      exact h.2.symm
    · simp at h

theorem openChannel_of_stub (site : Site) (h : s.engine.mode = .stub) :
    s.openChannel site = (.ok (.stub, s.numbering), site.tell [stubWarning]) := by
  rw [openChannel, h]

/-- A live channel is made of a new client of the engine and of the builder, if the service
has one. -/
theorem openChannel_of_live (site : Site) (h : s.engine.mode = .live) :
    ∃ url, s.openChannel site =
      match s.builder with
      | none => (.ok (.live url none, .new), site)
      | some b => ((openBuilder site b).1.map fun builder => (.live url (some builder), .new),
          (openBuilder site b).2) := by
  obtain ⟨url, hclient⟩ := Connection.engineClient_of_live h
  refine ⟨url, ?_⟩
  rw [openChannel, h]
  dsimp only
  rw [hclient]
  rfl

/-- The channel is the stub or live as the engine is, it has a builder if the
service has one, and the operator is warned of the stub alone. -/
theorem openChannel_eq_ok {c : Channel} {numbering : Engine.Numbering}
    (h : s.openChannel site = (.ok (c, numbering), site')) :
    c.mode = s.engine.mode ∧
      (∀ engine builder, c = .live engine builder → builder.isSome = s.builder.isSome) ∧
      site'.operatorEvents = site.operatorEvents ++ warnings s.engine.mode := by
  cases hmode : s.engine.mode with
  | stub =>
    rw [openChannel_of_stub site hmode] at h
    cases h
    simp [Channel.mode, warnings, stubWarning]
  | live =>
    obtain ⟨url, hopen⟩ := openChannel_of_live site hmode
    rw [hopen] at h
    cases hb : s.builder with
    | none =>
      rw [hb] at h
      cases h
      refine ⟨rfl, ?_, by simp [warnings]⟩
      rintro engine builder ⟨⟩
      rfl
    | some b =>
      rcases ho : openBuilder site b with ⟨result, site₁⟩
      simp only [hb, ho] at h
      cases result with
      | error e => cases h
      | ok v =>
        cases h
        refine ⟨rfl, ?_, by simp [warnings, (openBuilder_eq_ok ho).2]⟩
        rintro engine builder ⟨⟩
        rfl

/-- Failing to open a channel changes nothing on the site. -/
theorem openChannel_eq_error {e : ServiceError} (h : s.openChannel site = (.error e, site')) :
    site' = site := by
  cases hmode : s.engine.mode with
  | stub =>
    rw [openChannel_of_stub site hmode] at h
    cases h
  | live =>
    obtain ⟨url, hopen⟩ := openChannel_of_live site hmode
    rw [hopen] at h
    cases hb : s.builder with
    | none =>
      rw [hb] at h
      cases h
    | some b =>
      rcases ho : openBuilder site b with ⟨result, site₁⟩
      simp only [hb, ho] at h
      cases result with
      | error e =>
        cases h
        exact openBuilder_eq_error ho
      | ok v => cases h

/-! ### Starting -/

theorem openAndPublish_eq_ok {c : Channel} (h : s.openAndPublish site = (.ok c, s', site')) :
    s.state = .created ∧ s.channels.published = none ∧ ∃ numbering,
      s' = { s with channels := { s.channels with published := some c }, numbering } ∧
      s.openChannel (site.tell [engineEvent s.engine]) = (.ok (c, numbering), site') := by
  unfold openAndPublish at h
  split at h
  · simp at h
  · rename_i hcreated
    split at h
    · simp at h
    · rename_i c' numbering site₁ hopen
      split at h
      · simp at h
      · rename_i channels hset
        simp only [Prod.mk.injEq, Except.ok.injEq] at h
        obtain ⟨rfl, rfl, rfl⟩ := h
        obtain ⟨hnone, rfl⟩ := ChannelRegistry.setPublished_eq_ok.mp hset
        exact ⟨of_not_not hcreated, hnone, numbering, rfl, hopen⟩

/-- A start that is refused leaves the service as it was. -/
theorem openAndPublish_eq_error {e : ServiceError}
    (h : s.openAndPublish site = (.error e, s', site')) : s' = s := by
  unfold openAndPublish at h
  split at h
  · simp only [Prod.mk.injEq] at h
    exact h.2.1.symm
  · split at h
    · simp only [Prod.mk.injEq] at h
      exact h.2.1.symm
    · split at h
      · simp only [Prod.mk.injEq] at h
        exact h.2.1.symm
      · simp at h

theorem openAndPublish_late (h : s.state ≠ .created) :
    s.openAndPublish site = (.error (lateStart s.state), s, site) := by
  rw [openAndPublish, if_pos h]

/-- A start that succeeds publishes the channel that it has opened and delivers
it. -/
theorem start_eq_ok (h : s.start site = (.ok (), s', site')) :
    s.state = .created ∧ ∃ c numbering site₁,
      s.openChannel (site.tell [engineEvent s.engine]) = (.ok (c, numbering), site₁) ∧
      (s', site') = Service.deliver
        { s with channels := { s.channels with published := some c }, numbering } site₁ c := by
  unfold start at h
  split at h
  · simp at h
  · rename_i c s₁ site₁ hopen
    obtain ⟨hcreated, -, numbering, rfl, hchannel⟩ := openAndPublish_eq_ok hopen
    rw [Prod.mk.injEq] at h
    exact ⟨hcreated, c, numbering, site₁, hchannel, h.2.symm⟩

theorem start_eq_error {e : ServiceError} (h : s.start site = (.error e, s', site')) :
    s' = s ∧ s.openAndPublish site = (.error e, s, site') := by
  unfold start at h
  split at h
  · rename_i e' s₁ site₁ hopen
    simp only [Prod.mk.injEq, Except.error.injEq] at h
    obtain ⟨rfl, rfl, rfl⟩ := h
    obtain rfl := openAndPublish_eq_error hopen
    exact ⟨rfl, hopen⟩
  · simp at h

/-- A start that comes too late changes nothing. -/
theorem start_late (h : s.state ≠ .created) :
    s.start site = (.error (lateStart s.state), s, site) := by
  rw [start, openAndPublish_late h]

/-! ### Services that are not being started -/

/-- What is true of a service while no start is under way. -/
structure AtRest (s : Service) : Prop where
  consistent : s.channels.Consistent
  created : s.state = .created → s.channels.published = none
  started : s.state = .started → s.channels.published.isSome
  delivered : s.channels.published.isSome → s.channels.pending = []

theorem atRest_of_new (h : new site config = (.ok s, site')) : s.AtRest := by
  obtain ⟨hstate, hchannels, -, -⟩ := new_eq_ok h
  refine ⟨?_, ?_, ?_, ?_⟩
  · rw [hchannels]
    exact ChannelRegistry.consistent_empty
  · intro _
    rw [hchannels]
    rfl
  · rw [hstate]
    simp
  · rw [hchannels]
    simp [ChannelRegistry.empty]

/-- The operator is told nothing by a start that is refused: before the start
nothing is published, so publishing cannot be what fails. -/
theorem AtRest.operatorEvents_of_error (hs : s.AtRest) {e : ServiceError}
    (h : s.openAndPublish site = (.error e, s', site')) :
    site'.operatorEvents = site.operatorEvents := by
  unfold openAndPublish at h
  split at h
  · simp only [Prod.mk.injEq] at h
    rw [h.2.2]
  · rename_i hcreated
    split at h
    · rename_i e' site₁ hopen
      simp only [Prod.mk.injEq] at h
      rw [← h.2.2, openChannel_eq_error hopen]
      simp [engineEvent]
    · split at h
      · -- In the created state nothing is published, so publishing does not fail.
        rename_i e' hset
        rw [ChannelRegistry.setPublished, hs.created (of_not_not hcreated)] at hset
        cases hset
      · simp at h

/-- Delivering the published channel ends a start. -/
theorem atRest_deliver (site : Site) {c : Channel} (hc : s.channels.Consistent)
    (hp : s.channels.published = some c) : (s.deliver site c).1.AtRest where
  consistent := hc.deliver hp
  created := nofun
  started _ := by simp [deliver, hp]
  delivered _ := rfl

theorem AtRest.stop (hs : s.AtRest) (site : Site) : (s.stop site).2.1.AtRest where
  consistent := hs.consistent.close
  created := nofun
  started := nofun
  delivered _ := rfl

theorem AtRest.subscribe (hs : s.AtRest) : s.subscribe.2.AtRest where
  consistent := hs.consistent.subscribe
  created h := (ChannelRegistry.published_subscribe _).trans (hs.created h)
  started h := by simpa [Service.subscribe] using hs.started h
  delivered h := by
    have hp : s.channels.published.isSome := by simpa [Service.subscribe] using h
    show s.channels.subscribe.2.pending = []
    rw [ChannelRegistry.pending_subscribe, if_pos hp]
    exact hs.delivered hp

/-- What the holder of a receiver does to it is of no matter to the service. -/
theorem AtRest.replace (hs : s.AtRest) {channels : ChannelRegistry Channel}
    (hc : channels.Consistent) (hpublished : channels.published = s.channels.published)
    (hpending : channels.pending = s.channels.pending) :
    AtRest { s with channels } where
  consistent := hc
  created h := hpublished.trans (hs.created h)
  started h := by simpa [hpublished] using hs.started h
  delivered h := hpending.trans (hs.delivered (by simpa [hpublished] using h))

end Service

end ExecutionLink
