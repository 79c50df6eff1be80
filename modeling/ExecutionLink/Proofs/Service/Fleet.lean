/-
Services that share metrics.

A `Fleet` is any number of services, made at any time from any configurations.
Each of them is at a place, with a clock and a log, and uses a metrics registry;
places and registries may be shared.  The services are started and stopped in any
order, and in between their receivers are looked at, others register and count
in the registries, and anything may happen at a place.

What a start comes to depends on three things only, the state of the service, its
configuration and its registry (`start_registered`, `start_free`).  The services
of a fleet get into each other's way only by what `Sound` says of a registry: who
has a live builder and has started is the one who registered there.

* `failed_start_changes_nothing` — for which reasons a start fails, that a failed
  one leaves everything as it was, and that of the services with a live builder at
  most one for each registry is ever started.
-/
import ExecutionLink.Proofs.Metrics.Registered
import ExecutionLink.Proofs.Service.Starting
import Mathlib.Logic.Function.Basic

namespace ExecutionLink

/-- The configuration is one with a builder that is live, as its engine is. -/
def Configuration.HasLiveBuilder (c : Configuration) : Prop :=
  c.engineMode = .live ∧ c.builderEndpoint.isSome

namespace Service

variable {s s' : Service} {site site' : Site} {config : Configuration}

/-! ### What a start comes to -/

/-- The error of a start whose registry holds the builder's counters already. -/
def registeredBefore : ServiceError :=
  .metrics MetricsError.alreadyRegistered.message

theorem Connected.of_hasLiveBuilder (hs : s.Connected config) (h : config.HasLiveBuilder) :
    s.engine.mode = .live ∧ ∃ b url, s.builder = some b ∧ b.url = some url := by
  have hlive : s.engine.mode = .live := hs.engine_mode.trans h.1
  obtain ⟨b, hb⟩ := Option.isSome_iff_exists.mp (hs.builder_isSome.trans h.2)
  obtain ⟨url, hurl⟩ := Connection.url_of_live ((hs.builder_mode b hb).trans hlive)
  exact ⟨hlive, b, url, hb, hurl⟩

/-- A service without a live builder opens its channel and registers nothing. -/
theorem openChannel_of_not_hasLiveBuilder (site : Site) (hs : s.Connected config)
    (h : ¬config.HasLiveBuilder) :
    ∃ c numbering site', s.openChannel site = (.ok (c, numbering), site') ∧
      site'.metrics = site.metrics := by
  cases hmode : s.engine.mode with
  | stub => exact ⟨_, _, _, openChannel_of_stub site hmode, rfl⟩
  | live =>
    obtain ⟨url, hopen⟩ := openChannel_of_live site hmode
    cases hb : s.builder with
    | none =>
      rw [hb] at hopen
      exact ⟨_, _, _, hopen, rfl⟩
    | some b =>
      -- A builder next to a live engine is live.
      have hsome : config.builderEndpoint.isSome := by
        rw [← hs.builder_isSome, hb]
        rfl
      exact absurd ⟨hs.engine_mode.symm.trans hmode, hsome⟩ h

theorem openChannel_of_none (hs : s.Connected config) (h : config.HasLiveBuilder)
    (hnone : site.metrics.matrix = none) :
    ∃ c numbering site', s.openChannel site = (.ok (c, numbering), site') ∧
      site'.metrics.matrix.isSome := by
  obtain ⟨hlive, b, url, hb, hurl⟩ := hs.of_hasLiveBuilder h
  obtain ⟨metrics, hregister, hmatrix⟩ := MetricsRegistry.registerBuilder_of_none hnone
  have hbuilder : openBuilder site b = (.ok url, { site with metrics }.tell [builderEvent b]) := by
    simp only [openBuilder, Connection.liveUrl, hurl, hregister]
  obtain ⟨engine, hopen⟩ := openChannel_of_live site hlive
  simp only [hb, hbuilder] at hopen
  refine ⟨_, _, _, hopen, ?_⟩
  show metrics.matrix.isSome
  rw [hmatrix]
  rfl

theorem openChannel_of_isSome (hs : s.Connected config) (h : config.HasLiveBuilder)
    (hsome : site.metrics.matrix.isSome) :
    s.openChannel site = (.error registeredBefore, site) := by
  obtain ⟨hlive, b, url, hb, hurl⟩ := hs.of_hasLiveBuilder h
  have hregister := MetricsRegistry.registerBuilder_of_isSome hsome
  have hbuilder : openBuilder site b = (.error registeredBefore, site) := by
    simp only [openBuilder, Connection.liveUrl, hurl, hregister]
    rfl
  obtain ⟨engine, hopen⟩ := openChannel_of_live site hlive
  simp only [hb, hbuilder] at hopen
  exact hopen

/-- A start whose registry holds the builder's counters already fails. -/
theorem start_of_isSome (hs : s.Connected config) (hcreated : s.state = .created)
    (h : config.HasLiveBuilder) (hsome : site.metrics.matrix.isSome) :
    s.start site = (.error registeredBefore, s, site.tell [engineEvent s.engine]) := by
  have hopen : s.openChannel (site.tell [engineEvent s.engine]) = _ :=
    openChannel_of_isSome hs h hsome
  simp [start, openAndPublish, hcreated, hopen]

/-- While nothing is published, a channel that can be opened is published. -/
theorem AtRest.start_of_openChannel (hs : s.AtRest) (hcreated : s.state = .created) {c : Channel}
    {numbering : Engine.Numbering}
    (hopen : s.openChannel (site.tell [engineEvent s.engine]) = (.ok (c, numbering), site')) :
    ∃ s' site₁, s.start site = (.ok (), s', site₁) ∧ site₁.metrics = site'.metrics ∧ s'.AtRest ∧
      s'.engine = s.engine ∧ s'.builder = s.builder := by
  let s₁ : Service := { s with channels := { s.channels with published := some c }, numbering }
  -- nothing is published before the first start, so this one can publish
  have hset : s.channels.setPublished c = .ok s₁.channels :=
    ChannelRegistry.setPublished_eq_ok.mpr ⟨hs.created hcreated, rfl⟩
  have hpublish : s.openAndPublish site = (.ok c, s₁, site') := by
    rw [openAndPublish, if_neg (not_not_intro hcreated), hopen]
    dsimp only
    rw [hset]
  have hstart : s.start site = (.ok (), s₁.deliver site' c) := by
    rw [start, hpublish]
  exact ⟨_, _, hstart, rfl, atRest_deliver site' (hs.consistent.setPublished hset) rfl, rfl, rfl⟩

/-- Every other first start succeeds. -/
theorem start_free (hrest : s.AtRest) (hs : s.Connected config) (hcreated : s.state = .created)
    (hfree : config.HasLiveBuilder → site.metrics.matrix = none) :
    ∃ s' site', s.start site = (.ok (), s', site') ∧ s'.AtRest ∧ s'.Connected config ∧
      (config.HasLiveBuilder → site'.metrics.matrix.isSome) ∧
      (¬config.HasLiveBuilder → site'.metrics = site.metrics) := by
  -- The channel opens, whether or not there is a builder to register.
  have hopen : ∃ c numbering site₁,
      s.openChannel (site.tell [engineEvent s.engine]) = (.ok (c, numbering), site₁) ∧
      (config.HasLiveBuilder → site₁.metrics.matrix.isSome) ∧
      (¬config.HasLiveBuilder → site₁.metrics = site.metrics) := by
    by_cases h : config.HasLiveBuilder
    · obtain ⟨c, numbering, site₁, hopen, hsome⟩ := openChannel_of_none hs h
        (show (site.tell [engineEvent s.engine]).metrics.matrix = none from hfree h)
      exact ⟨c, numbering, site₁, hopen, fun _ => hsome, fun hn => absurd h hn⟩
    · obtain ⟨c, numbering, site₁, hopen, hmetrics⟩ :=
        openChannel_of_not_hasLiveBuilder (site.tell [engineEvent s.engine]) hs h
      exact ⟨c, numbering, site₁, hopen, fun hy => absurd hy h, fun _ => hmetrics⟩
  obtain ⟨c, numbering, site₁, hopen, hsome, hsame⟩ := hopen
  obtain ⟨s', site', hstart, hmetrics, hrest', hengine, hbuilder⟩ :=
    hrest.start_of_openChannel hcreated hopen
  rw [← hmetrics] at hsome hsame
  exact ⟨s', site', hstart, hrest', hs.congr hengine hbuilder, hsome, hsame⟩

/-- A start fails for just two reasons: it comes too late, or the registry refuses
the counters of a live builder. -/
theorem start_fails_iff (hrest : s.AtRest) (hs : s.Connected config) {e : ServiceError} :
    (s.start site).1 = .error e ↔
      (s.state ≠ .created ∧ e = lateStart s.state) ∨
      (s.state = .created ∧ config.HasLiveBuilder ∧ site.metrics.matrix.isSome ∧
        e = registeredBefore) := by
  by_cases hcreated : s.state = .created
  · by_cases hrefused : config.HasLiveBuilder ∧ site.metrics.matrix.isSome
    · rw [start_of_isSome hs hcreated hrefused.1 hrefused.2]
      constructor
      · rintro ⟨⟩
        exact .inr ⟨hcreated, hrefused.1, hrefused.2, rfl⟩
      · rintro (⟨hlate, -⟩ | ⟨-, -, -, rfl⟩)
        · exact absurd hcreated hlate
        · rfl
    · have hfree (h : config.HasLiveBuilder) : site.metrics.matrix = none := by
        simpa [h] using hrefused
      obtain ⟨s', site', hstart, -⟩ := start_free hrest hs hcreated hfree
      rw [hstart]
      constructor
      · rintro ⟨⟩
      · rintro (⟨hlate, -⟩ | ⟨-, hbuilder, hsome, -⟩)
        · exact absurd hcreated hlate
        · exact absurd ⟨hbuilder, hsome⟩ hrefused
  · rw [start_late hcreated]
    constructor
    · rintro ⟨⟩
      exact .inl ⟨hcreated, rfl⟩
    · rintro (⟨-, rfl⟩ | ⟨h, -⟩)
      · rfl
      · exact absurd h hcreated

/-- A start that fails changes neither the service nor its registry, and the
operator is told nothing. -/
theorem start_eq_error_unchanged (hrest : s.AtRest) (hs : s.Connected config) {e : ServiceError}
    (h : s.start site = (.error e, s', site')) :
    s' = s ∧ site'.metrics = site.metrics ∧ site'.operatorEvents = site.operatorEvents := by
  obtain ⟨rfl, hopen⟩ := start_eq_error h
  refine ⟨rfl, ?_, hrest.operatorEvents_of_error hopen⟩
  have hfails := (start_fails_iff hrest hs).mp (congrArg Prod.fst h)
  obtain ⟨hlate, -⟩ | ⟨hcreated, hbuilder, hsome, -⟩ := hfails
  · rw [start_late hlate] at h
    cases h
    rfl
  · rw [start_of_isSome hs hcreated hbuilder hsome] at h
    cases h
    rfl

/-- A start that succeeds registers a live builder, for the first time, and nothing
else. -/
theorem start_eq_ok_registers (hrest : s.AtRest) (hs : s.Connected config)
    (h : s.start site = (.ok (), s', site')) :
    s'.AtRest ∧ s'.Connected config ∧
      (config.HasLiveBuilder → site.metrics.matrix = none ∧ site'.metrics.matrix.isSome) ∧
      (¬config.HasLiveBuilder → site'.metrics = site.metrics) := by
  obtain ⟨hcreated, -⟩ := start_eq_ok h
  have hfree (hbuilder : config.HasLiveBuilder) : site.metrics.matrix = none := by
    -- with the counters in the registry the start would have failed
    by_contra hne
    have hrefused := start_of_isSome hs hcreated hbuilder (Option.isSome_iff_ne_none.mpr hne)
    rw [h] at hrefused
    cases hrefused
  obtain ⟨s₁, site₁, hstart, hrest', hconnected, hsome, hsame⟩ :=
    start_free hrest hs hcreated hfree
  rw [h] at hstart
  cases hstart
  exact ⟨hrest', hconnected, fun hbuilder => ⟨hfree hbuilder, hsome hbuilder⟩, hsame⟩

theorem metrics_connect (site : Site) (endpoint secretFile : Option String) :
    (connect site endpoint secretFile).2.metrics = site.metrics := by
  unfold connect
  split <;> rfl

theorem metrics_connectBuilder (site : Site) (endpoint : Option String) :
    (connectBuilder site endpoint).2.metrics = site.metrics := by
  cases endpoint with
  | none => rfl
  | some text =>
    have hconnect := metrics_connect site (some text) none
    unfold connectBuilder
    dsimp only
    generalize connect site (some text) none = made at hconnect
    exact hconnect

/-- Making a service registers nothing. -/
theorem metrics_new (site : Site) (config : Configuration) :
    (new site config).2.metrics = site.metrics := by
  have hengine := metrics_connect site config.engineEndpoint config.secretFile
  unfold new
  generalize connect site config.engineEndpoint config.secretFile = made at hengine
  obtain ⟨engine | engine, site₁⟩ := made
  · exact hengine
  have hbuilder := metrics_connectBuilder site₁ config.builderEndpoint
  dsimp only
  generalize connectBuilder site₁ config.builderEndpoint = made at hbuilder
  obtain ⟨builder | builder, site₂⟩ := made
  · exact hbuilder.trans hengine
  dsimp only
  split <;> exact hbuilder.trans hengine

end Service

/-! ### Fleets -/

/-- A service of a fleet: where it is, which registry it uses, and what its starts
came to. -/
structure Member where
  service : Service
  configuration : Configuration
  place : Nat
  registry : Nat
  answers : List (Except ServiceError Unit) := []

/-- Services with the sites they are on and the registries they use, by number.
The metrics of a site are those of the service's own registry. -/
structure Fleet where
  sites : Nat → Site
  registries : Nat → MetricsRegistry
  members : List Member := []

namespace Member

/-- The service has a live builder and was started. -/
def Holds (m : Member) : Prop :=
  m.configuration.HasLiveBuilder ∧ .ok () ∈ m.answers

/-- The service was made with its configuration, and no start is under way. -/
structure Ready (m : Member) : Prop where
  atRest : m.service.AtRest
  connected : m.service.Connected m.configuration

/-- Starts the service and notes what came of it. -/
def start (m : Member) (s : Site) : Member × Site :=
  let (answer, service, s) := m.service.start s
  ({ m with service, answers := m.answers ++ [answer] }, s)

/-- Stops the service. -/
def stop (m : Member) (s : Site) : Member × Site :=
  let (_, service, s) := m.service.stop s
  ({ m with service }, s)

/-- Hands out a receiver. -/
def subscribe (m : Member) (s : Site) : Member × Site :=
  ({ m with service := m.service.subscribe.2 }, s)

/-- A holder looks at a receiver. -/
def look (receiver : Nat) (m : Member) (s : Site) : Member × Site :=
  ({ m with service.channels := (m.service.channels.poll receiver).2 }, s)

/-- A holder lets go of a receiver. -/
def drop (receiver : Nat) (m : Member) (s : Site) : Member × Site :=
  ({ m with service.channels := m.service.channels.drop receiver }, s)

end Member

namespace Fleet

/-- What can happen in a fleet. -/
inductive Step where
  | make (place registry : Nat) (configuration : Configuration)
  | start (member : Nat)
  | stop (member : Nat)
  | subscribe (member : Nat)
  | look (member receiver : Nat)
  | drop (member receiver : Nat)
  /-- Others register counters, or count in those of a name. -/
  | register (registry : Nat) (counters : CounterMatrix)
  | record (registry : Nat) (name : String) (sample : Sample)
  /-- The clock goes on, or something is logged. -/
  | elsewhere (place : Nat) (site : Site)

/-- The site of a service. -/
def site (f : Fleet) (place registry : Nat) : Site :=
  { f.sites place with metrics := f.registries registry }

/-- Puts back a site together with its metrics. -/
def withSite (f : Fleet) (place registry : Nat) (s : Site) : Fleet :=
  { f with
    sites := Function.update f.sites place s
    registries := Function.update f.registries registry s.metrics }

/-- Acts on a service and its site. -/
def act (f : Fleet) (i : Nat) (action : Member → Site → Member × Site) : Fleet :=
  match f.members[i]? with
  | none => f
  | some m =>
    let (m', s) := action m (f.site m.place m.registry)
    { f.withSite m.place m.registry s with members := f.members.set i m' }

/-- Takes a step. -/
def step (f : Fleet) : Step → Fleet
  | .make place registry configuration =>
    match Service.new (f.site place registry) configuration with
    | (.error _, s) => f.withSite place registry s
    | (.ok service, s) =>
      { f.withSite place registry s with
        members := f.members ++ [{ service, configuration, place, registry }] }
  | .start i => f.act i Member.start
  | .stop i => f.act i Member.stop
  | .subscribe i => f.act i Member.subscribe
  | .look i receiver => f.act i (Member.look receiver)
  | .drop i receiver => f.act i (Member.drop receiver)
  | .register registry counters =>
    match (f.registries registry).register counters with
    | .error _ => f
    | .ok metrics => { f with registries := Function.update f.registries registry metrics }
  | .record registry name sample =>
    { f with registries :=
        Function.update f.registries registry ((f.registries registry).recordIn name sample) }
  | .elsewhere place s => { f with sites := Function.update f.sites place s }

/-- The fleet without services. -/
def opened (sites : Nat → Site) (registries : Nat → MetricsRegistry) : Fleet :=
  { sites, registries }

/-- Takes steps in the given order. -/
def after (f : Fleet) (steps : List Step) : Fleet := steps.foldl step f

/-! ### The invariant of a fleet -/

/-- What is true of a fleet at any time. -/
structure Sound (f : Fleet) : Prop where
  ready : ∀ m ∈ f.members, m.Ready
  registered : ∀ m ∈ f.members, m.Holds → (f.registries m.registry).matrix.isSome
  unique : ∀ (i j : Nat) (m n : Member), f.members[i]? = some m → f.members[j]? = some n →
    m.Holds → n.Holds → m.registry = n.registry → i = j

/-- What an action on a service must be like: it keeps to its registry, where
nothing that is registered gets lost, and it gives the service a started live
builder only if it registers it there. -/
structure Allowed (m m' : Member) (before after : MetricsRegistry) : Prop where
  ready : m'.Ready
  registry : m'.registry = m.registry
  kept : before.matrix.isSome → after.matrix.isSome
  holds : m'.Holds → m.Holds ∨ (before.matrix = none ∧ after.matrix.isSome)

namespace Sound

variable {f : Fleet}

theorem opened {sites : Nat → Site} {registries : Nat → MetricsRegistry} :
    (Fleet.opened sites registries).Sound where
  ready _ hm := absurd hm List.not_mem_nil
  registered _ hm := absurd hm List.not_mem_nil
  unique _ _ _ _ hm := by simp [Fleet.opened] at hm

/-- What happens to none of the services is of no matter if nothing that is
registered gets lost. -/
theorem other (h : f.Sound) {sites : Nat → Site} {registries : Nat → MetricsRegistry}
    (hkept : ∀ r, (f.registries r).matrix.isSome → (registries r).matrix.isSome) :
    Sound { f with sites, registries } where
  ready := h.ready
  registered m hm hholds := hkept m.registry (h.registered m hm hholds)
  unique := h.unique

theorem kept_update {registries : Nat → MetricsRegistry} {registry : Nat}
    {metrics : MetricsRegistry}
    (hkept : (registries registry).matrix.isSome → metrics.matrix.isSome) (r : Nat)
    (hr : (registries r).matrix.isSome) :
    (Function.update registries registry metrics r).matrix.isSome := by
  by_cases heq : r = registry
  · subst heq
    rw [Function.update_self]
    exact hkept hr
  · rwa [Function.update_of_ne heq]

theorem replace (h : f.Sound) {i : Nat} {m m' : Member} {s : Site} (hi : f.members[i]? = some m)
    (hallowed : Allowed m m' (f.registries m.registry) s.metrics) :
    Sound { f.withSite m.place m.registry s with members := f.members.set i m' } := by
  have hm : m ∈ f.members := List.mem_of_getElem? hi
  -- Who else has a started live builder has registered it somewhere else.
  have hothers (j : Nat) (n : Member) (hj : f.members[j]? = some n) (hn : n.Holds)
      (hm' : m'.Holds) (hregistry : m'.registry = n.registry) : i = j := by
    rw [hallowed.registry] at hregistry
    obtain hholds | ⟨hnone, -⟩ := hallowed.holds hm'
    · exact h.unique i j m n hi hj hholds hn hregistry
    · have hsome := h.registered n (List.mem_of_getElem? hj) hn
      rw [← hregistry, hnone] at hsome
      cases hsome
  refine ⟨?_, ?_, ?_⟩
  · intro n hn
    obtain hn | rfl := List.mem_or_eq_of_mem_set hn
    · exact h.ready n hn
    · exact hallowed.ready
  · intro n hn hholds
    obtain hn | rfl := List.mem_or_eq_of_mem_set hn
    · -- another service: what it registered is still there
      exact kept_update hallowed.kept n.registry (h.registered n hn hholds)
    · show (Function.update f.registries m.registry s.metrics n.registry).matrix.isSome
      rw [hallowed.registry, Function.update_self]
      obtain hholds | ⟨-, hsome⟩ := hallowed.holds hholds
      · exact hallowed.kept (h.registered m hm hholds)
      · exact hsome
  · intro j k n o hj hk hn ho hregistry
    -- two others are as they were; the changed service is compared by `hothers`
    have hlt : i < f.members.length := (List.getElem?_eq_some_iff.mp hi).1
    by_cases hij : i = j
    · subst hij
      rw [List.getElem?_set_self hlt, Option.some.injEq] at hj
      subst hj
      by_cases hik : i = k
      · exact hik
      · rw [List.getElem?_set_ne hik] at hk
        exact hothers k o hk ho hn hregistry
    · rw [List.getElem?_set_ne hij] at hj
      by_cases hik : i = k
      · subst hik
        rw [List.getElem?_set_self hlt, Option.some.injEq] at hk
        subst hk
        exact (hothers j n hj hn ho hregistry.symm).symm
      · rw [List.getElem?_set_ne hik] at hk
        exact h.unique j k n o hj hk hn ho hregistry

theorem act (h : f.Sound) (i : Nat) {action : Member → Site → Member × Site}
    (hallowed : ∀ m s, m.Ready → Allowed m (action m s).1 s.metrics (action m s).2.metrics) :
    (f.act i action).Sound := by
  unfold Fleet.act
  cases hi : f.members[i]? with
  | none => exact h
  | some m =>
    exact h.replace hi (hallowed m _ (h.ready m (List.mem_of_getElem? hi)))

end Sound

/-- What starts no service and leaves the registry alone is allowed. -/
theorem allowed_of_metrics_eq {m m' : Member} {before after : MetricsRegistry} (hready : m'.Ready)
    (hregistry : m'.registry = m.registry) (hmetrics : after = before)
    (hholds : m'.Holds → m.Holds) : Allowed m m' before after where
  ready := hready
  registry := hregistry
  kept hbefore := by rwa [hmetrics]
  holds hm' := .inl (hholds hm')

theorem allowed_start {m : Member} (hm : m.Ready) (s : Site) :
    Allowed m (m.start s).1 s.metrics (m.start s).2.metrics := by
  obtain ⟨hrest, hconnected⟩ := hm
  unfold Member.start
  rcases hstart : m.service.start s with ⟨e | v, s', site'⟩
  · obtain ⟨rfl, hmetrics, -⟩ := Service.start_eq_error_unchanged hrest hconnected hstart
    refine allowed_of_metrics_eq ⟨hrest, hconnected⟩ rfl hmetrics fun ⟨hbuilder, hmem⟩ => ?_
    exact ⟨hbuilder, by simpa using hmem⟩
  · obtain ⟨hrest', hconnected', hregisters, hsame⟩ :=
      Service.start_eq_ok_registers hrest hconnected hstart
    refine ⟨⟨hrest', hconnected'⟩, rfl, fun hbefore => ?_, fun hm' => .inr (hregisters hm'.1)⟩
    by_cases hbuilder : m.configuration.HasLiveBuilder
    · exact (hregisters hbuilder).2
    · rwa [hsame hbuilder]

namespace Sound

variable {f : Fleet}

/-- A new service has not been started. -/
theorem append (h : f.Sound) {m : Member} (hm : m.Ready) (hholds : ¬m.Holds) :
    Sound { f with members := f.members ++ [m] } where
  ready n hn := by
    obtain hn | hn := List.mem_append.mp hn
    · exact h.ready n hn
    · rwa [List.mem_singleton.mp hn]
  registered n hn hn' := by
    obtain hn | hn := List.mem_append.mp hn
    · exact h.registered n hn hn'
    · exact absurd (List.mem_singleton.mp hn ▸ hn') hholds
  unique i j n o hi hj hn ho hregistry := by
    -- whoever has a started live builder is not the new one
    have hold {k : Nat} {x : Member} (hk : (f.members ++ [m])[k]? = some x) (hx : x.Holds) :
        f.members[k]? = some x := by
      by_cases hlt : k < f.members.length
      · rwa [List.getElem?_append_left hlt] at hk
      · rw [List.getElem?_append_right (Nat.le_of_not_lt hlt)] at hk
        have hxm : x = m := List.mem_singleton.mp (List.mem_of_getElem? hk)
        exact absurd (hxm ▸ hx) hholds
    exact h.unique i j n o (hold hi hn) (hold hj ho) hn ho hregistry

theorem make (h : f.Sound) (place registry : Nat) (configuration : Configuration) :
    (f.step (.make place registry configuration)).Sound := by
  have hmetrics := Service.metrics_new (f.site place registry) configuration
  rcases hnew : Service.new (f.site place registry) configuration with ⟨result, s⟩
  rw [hnew] at hmetrics
  have hkept : ∀ r, (f.registries r).matrix.isSome →
      (Function.update f.registries registry s.metrics r).matrix.isSome :=
    kept_update fun hbefore => (congrArg (·.matrix.isSome) hmetrics).trans hbefore
  cases result with
  | error e =>
    simp only [Fleet.step, hnew]
    exact h.other hkept
  | ok service =>
    obtain ⟨-, -, hconnected, -⟩ := Service.new_eq_ok hnew
    simp only [Fleet.step, hnew]
    exact (h.other hkept).append ⟨Service.atRest_of_new hnew, hconnected⟩
      fun hholds => List.not_mem_nil hholds.2

theorem step (h : f.Sound) (a : Step) : (f.step a).Sound := by
  cases a with
  | make place registry configuration => exact h.make place registry configuration
  | start i => exact h.act i fun m s hm => allowed_start hm s
  | stop i =>
    show (f.act i Member.stop).Sound
    refine h.act i fun m s hm => allowed_of_metrics_eq ⟨?_, ?_⟩ rfl rfl id
    · exact hm.atRest.stop s
    · exact hm.connected.congr rfl rfl
  | subscribe i =>
    show (f.act i Member.subscribe).Sound
    refine h.act i fun m s hm => allowed_of_metrics_eq ⟨?_, ?_⟩ rfl rfl id
    · exact hm.atRest.subscribe
    · exact hm.connected.congr rfl rfl
  | look i receiver =>
    show (f.act i (Member.look receiver)).Sound
    refine h.act i fun m s hm => allowed_of_metrics_eq ⟨?_, ?_⟩ rfl rfl id
    · exact hm.atRest.replace (hm.atRest.consistent.poll receiver)
        (ChannelRegistry.published_poll _ receiver) (ChannelRegistry.pending_poll _ receiver)
    · exact hm.connected.congr rfl rfl
  | drop i receiver =>
    show (f.act i (Member.drop receiver)).Sound
    refine h.act i fun m s hm => allowed_of_metrics_eq ⟨?_, ?_⟩ rfl rfl id
    · exact hm.atRest.replace (hm.atRest.consistent.drop receiver) rfl rfl
    · exact hm.connected.congr rfl rfl
  | register registry counters =>
    unfold Fleet.step
    dsimp only
    cases hregister : (f.registries registry).register counters with
    | error e => exact h
    | ok metrics =>
      exact h.other (kept_update (MetricsRegistry.isSome_matrix_register hregister))
  | record registry name sample =>
    refine h.other (kept_update fun hbefore => ?_)
    rwa [MetricsRegistry.isSome_matrix_recordIn]
  | elsewhere place s => exact h.other fun _ => id

theorem after (h : f.Sound) (steps : List Step) : (f.after steps).Sound := by
  induction steps generalizing f with
  | nil => exact h
  | cons a steps ih => exact ih (h.step a)

end Sound

/-! ### The main result -/

/-- In every fleet a start fails exactly if the service is not in its first state,
or if it has a live builder and its registry holds the builder's counters already;
a first start without a live builder succeeds.  A start that fails leaves all
services and registries as they were, and the operator is told nothing.  Of the
services with a live builder that share a registry at most one is ever started. -/
theorem failed_start_changes_nothing (sites : Nat → Site) (registries : Nat → MetricsRegistry)
    (steps : List Step) {i : Nat} {m : Member}
    (hm : ((opened sites registries).after steps).members[i]? = some m) :
    let f := (opened sites registries).after steps
    let result := (m.service.start (f.site m.place m.registry)).1
    (∀ e, result = .error e ↔
      (m.service.state ≠ .created ∧ e = Service.lateStart m.service.state) ∨
      (m.service.state = .created ∧ m.configuration.HasLiveBuilder ∧
        (f.registries m.registry).matrix.isSome ∧ e = Service.registeredBefore)) ∧
    (m.service.state = .created → ¬m.configuration.HasLiveBuilder → result = .ok ()) ∧
    (∀ e, result = .error e →
      (f.step (.start i)).members = f.members.set i { m with answers := m.answers ++ [.error e] } ∧
      (f.step (.start i)).registries = f.registries ∧
      ∀ place, ((f.step (.start i)).sites place).operatorEvents =
        (f.sites place).operatorEvents) ∧
    (∀ j n, f.members[j]? = some n → n.registry = m.registry →
      m.configuration.HasLiveBuilder → .ok () ∈ m.answers →
      n.configuration.HasLiveBuilder → .ok () ∈ n.answers → i = j) := by
  intro f result
  have h : f.Sound := Sound.opened.after steps
  obtain ⟨hrest, hconnected⟩ := h.ready m (List.mem_of_getElem? hm)
  refine ⟨fun e => Service.start_fails_iff hrest hconnected, ?_, ?_, ?_⟩
  · intro hcreated hbuilder
    obtain ⟨s', site', hstart, -⟩ :=
      Service.start_free hrest hconnected hcreated fun h => absurd h hbuilder
    exact congrArg Prod.fst hstart
  · intro e he
    rcases hstart : m.service.start (f.site m.place m.registry) with ⟨r, s', site'⟩
    obtain rfl : r = .error e := by rw [← he]; exact (congrArg Prod.fst hstart).symm
    obtain ⟨rfl, hmetrics, hlog⟩ := Service.start_eq_error_unchanged hrest hconnected hstart
    have hi : f.members[i]? = some m := hm
    have hstep : f.step (.start i) = { f.withSite m.place m.registry site' with
        members := f.members.set i { m with answers := m.answers ++ [.error e] } } := by
      simp only [Fleet.step, act, hi, Member.start, hstart]
    rw [hstep]
    refine ⟨rfl, ?_, fun place => ?_⟩
    · show Function.update f.registries m.registry site'.metrics = f.registries
      rw [hmetrics]
      exact Function.update_eq_self m.registry f.registries
    · show (Function.update f.sites m.place site' place).operatorEvents = _
      by_cases heq : place = m.place
      · rw [heq, Function.update_self, hlog]
        rfl
      · rw [Function.update_of_ne heq]
  · intro j n hj hregistry hmbuilder hmstarted hnbuilder hnstarted
    exact h.unique i j m n hm hj ⟨hmbuilder, hmstarted⟩ ⟨hnbuilder, hnstarted⟩ hregistry.symm

/-- Of two services with live builders on one registry the first was started; then
the second cannot be. -/
theorem failed_start_changes_nothing_shared :
    ∃ (f : Fleet) (m n : Member), f.members[0]? = some m ∧ f.members[1]? = some n ∧
      m.registry = n.registry ∧ m.service.state = .started ∧
      (n.service.start (f.site n.place n.registry)).1 = .error Service.registeredBefore ∧
      (f.step (.start 1)).registries = f.registries := by
  let config : Configuration :=
    { engineEndpoint := some "http://1", builderEndpoint := some "http://2" }
  let sites : Nat → Site := fun _ => { dataDirectory := "./data", clock := ⟨0⟩ }
  let steps : List Step := [.make 0 0 config, .make 1 0 config, .start 0]
  have hmembers : ((opened sites fun _ => .empty).after steps).members.map
      (fun m => (m.registry, m.service.state, m.configuration)) =
        [(0, .started, config), (0, .created, config)] := by decide +kernel
  have hsome : (((opened sites fun _ => .empty).after steps).registries 0).matrix.isSome := by
    decide +kernel
  obtain ⟨m, members, hf, hm, hrest⟩ := List.map_eq_cons_iff.mp hmembers
  obtain ⟨n, members, rfl, hn, -⟩ := List.map_eq_cons_iff.mp hrest
  simp only [Prod.mk.injEq] at hm hn
  obtain ⟨hmregistry, hmstarted, -⟩ := hm
  obtain ⟨hnregistry, hncreated, hconfiguration⟩ := hn
  have hmain := @failed_start_changes_nothing sites (fun _ => .empty) steps 1 n
  generalize (opened sites fun _ => .empty).after steps = f at hf hsome hmain
  obtain ⟨hfails, -, hchanges, -⟩ := hmain (by rw [hf]; rfl)
  have hbuilder : n.configuration.HasLiveBuilder := by
    rw [hconfiguration]
    exact ⟨rfl, rfl⟩
  rw [← hnregistry] at hsome
  have hrefused := (hfails _).mpr (.inr ⟨hncreated, hbuilder, hsome, rfl⟩)
  exact ⟨f, m, n, by rw [hf]; rfl, by rw [hf]; rfl, hmregistry.trans hnregistry.symm,
    hmstarted, hrefused, (hchanges _ hrefused).2.1⟩

end Fleet

end ExecutionLink
