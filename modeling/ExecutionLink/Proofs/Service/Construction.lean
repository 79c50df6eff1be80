/-
When a service can be made.

Whether the modes of the two endpoints agree is asked twice: a configuration is
checked by its texts, a service by the URLs that its connections hold.  The two
never differ (`new_of_usable`).  A configuration is `Sound` or has a first fault
(`FirstFault`), and making a service succeeds or is refused accordingly.

* `new_agrees_with_validate` — a service is made exactly if the configuration is
  valid and its live endpoints are URLs over HTTP, and is otherwise refused with
  the first fault; its connections have the modes of their endpoints; blanks
  around an endpoint and the case of a stub marker are of no matter.
-/
import ExecutionLink.Proofs.Endpoint
import ExecutionLink.Proofs.Service.Starting

namespace ExecutionLink

/-! ### Faults of a configuration -/

namespace Configuration

/-- A configuration that nothing is wrong with. -/
structure Sound (config : Configuration) : Prop where
  valid : config.validate = .ok ()
  engine : Usable config.engineEndpoint
  builder : Usable config.builderEndpoint

/-- The first thing that is wrong with a configuration. The engine's endpoint is
looked at before the builder's, and their modes are compared last. -/
inductive FirstFault (config : Configuration) : ConfigurationError → Prop
  | engine {detail : String} (h : Refused config.engineEndpoint detail) :
      FirstFault config (.invalidEndpoint detail)
  | builder {detail : String} (hengine : Usable config.engineEndpoint)
      (h : Refused config.builderEndpoint detail) : FirstFault config (.invalidEndpoint detail)
  | modes (hengine : Usable config.engineEndpoint) (hbuilder : Usable config.builderEndpoint)
      (h : config.validate = .error .mixedModes) : FirstFault config .mixedModes

theorem validate_cases (config : Configuration) :
    config.validate = .ok () ∨ config.validate = .error .mixedModes := by
  rw [validate, EndpointMode.checkAgreement]
  split
  · exact .inl rfl
  · exact .inr rfl

theorem sound_or_firstFault (config : Configuration) :
    config.Sound ∨ ∃ fault, config.FirstFault fault := by
  rcases usable_or_refused config.engineEndpoint with hengine | ⟨detail, hengine⟩
  · rcases usable_or_refused config.builderEndpoint with hbuilder | ⟨detail, hbuilder⟩
    · rcases config.validate_cases with hvalid | hmixed
      · exact .inl ⟨hvalid, hengine, hbuilder⟩
      · exact .inr ⟨_, .modes hengine hbuilder hmixed⟩
    · exact .inr ⟨_, .builder hengine hbuilder⟩
  · exact .inr ⟨_, .engine hengine⟩

/-- Two configurations whose endpoints are two spellings of the same ones. -/
structure Respelled (config config' : Configuration) : Prop where
  engine : Option.Rel ExecutionLink.Respelled config.engineEndpoint config'.engineEndpoint
  builder : Option.Rel ExecutionLink.Respelled config.builderEndpoint config'.builderEndpoint
  secretFile : config.secretFile = config'.secretFile

theorem validate_congr {config config' : Configuration} (h : config.Respelled config') :
    config.validate = config'.validate := by
  have hengine : config.engineMode = config'.engineMode :=
    ExecutionLink.Respelled.congr_option (g := EndpointMode.ofEndpoint)
      (fun hrespelled => hrespelled.ofEndpoint_eq) h.engine
  have hbuilder : config.builderMode = config'.builderMode :=
    ExecutionLink.Respelled.congr_option
      (g := Option.map fun text => EndpointMode.ofEndpoint (some text))
      (fun hrespelled => congrArg some hrespelled.ofEndpoint_eq) h.builder
  rw [validate, validate, hengine, hbuilder]

end Configuration

namespace Service

variable {site : Site} {config config' : Configuration}

/-! ### Connecting -/

theorem connect_of_refused {endpoint secretFile : Option String} {detail : String}
    (h : Refused endpoint detail) :
    connect site endpoint secretFile =
      (.error (.configuration (.invalidEndpoint detail)), site) := by
  rw [connect, Connection.connect, Connection.resolve_of_refused h]
  rfl

theorem connect_of_usable (site : Site) {endpoint : Option String} (secretFile : Option String)
    (h : Usable endpoint) :
    ∃ c, connect site endpoint secretFile = (.ok c, site.tell [c.openedEvent]) := by
  obtain ⟨resolved, hresolved⟩ := Connection.resolve_of_usable h
  rw [connect, Connection.connect, hresolved]
  exact ⟨_, rfl⟩

theorem connectBuilder_of_refused {endpoint : Option String} {detail : String}
    (h : Refused endpoint detail) :
    connectBuilder site endpoint = (.error (.configuration (.invalidEndpoint detail)), site) := by
  cases endpoint with
  | none => cases h
  | some text =>
    rw [connectBuilder, connect_of_refused h]
    rfl

theorem connectBuilder_of_usable (site : Site) {endpoint : Option String} (h : Usable endpoint) :
    ∃ b site', connectBuilder site endpoint = (.ok b, site') ∧
      b.map (·.mode) = endpoint.map fun text => .ofEndpoint (some text) := by
  cases endpoint with
  | none => exact ⟨none, site, rfl, rfl⟩
  | some text =>
    obtain ⟨c, hc⟩ := connect_of_usable site none h
    have hmode : c.mode = .ofEndpoint (some text) := (connect_eq_ok hc).1
    refine ⟨some c, site.tell [c.openedEvent], ?_, congrArg some hmode⟩
    rw [connectBuilder, hc]
    rfl

/-- A connection is of the mode of the endpoint that it was made for, and of the mode of the
text that it keeps. -/
theorem mode_of_connect {site' : Site} {endpoint secretFile : Option String} {c : Connection}
    (h : connect site endpoint secretFile = (.ok c, site')) :
    c.mode = .ofEndpoint endpoint ∧ c.mode = .ofEndpoint (some c.endpoint) := by
  have hmode : c.mode = .ofEndpoint endpoint := (connect_eq_ok h).1
  refine ⟨hmode, ?_⟩
  rw [connect, Connection.connect] at h
  cases hresolved : Connection.resolve endpoint with
  | error e =>
    rw [hresolved] at h
    cases h
  | ok resolved =>
    rw [hresolved] at h
    cases h
    rw [hmode]
    exact (Connection.ofEndpoint_of_resolve hresolved).symm

/-- Of an endpoint only what it resolves to matters. -/
theorem connect_congr {endpoint endpoint' : Option String} (secretFile : Option String)
    (h : Connection.resolve endpoint = Connection.resolve endpoint') :
    connect site endpoint secretFile = connect site endpoint' secretFile := by
  rw [connect, connect, Connection.connect, Connection.connect, h]

theorem connectBuilder_congr {endpoint endpoint' : Option String}
    (h : Option.Rel Respelled endpoint endpoint') :
    connectBuilder site endpoint = connectBuilder site endpoint' := by
  refine Respelled.congr_option (g := connectBuilder site) ?_ h
  intro s t hrespelled
  rw [connectBuilder, connectBuilder, connect_congr none hrespelled.resolve_eq]

/-! ### Making a service -/

/-- With two usable endpoints, comparing the modes of the connections comes to
checking the configuration. -/
theorem new_of_usable (site : Site) (hengine : Usable config.engineEndpoint)
    (hbuilder : Usable config.builderEndpoint) :
    ∃ engine builder site', engine.mode = config.engineMode ∧
      builder.map (·.mode) = config.builderMode ∧
      new site config = match config.validate with
        | .error e => (.error (.configuration e), site')
        | .ok () => (.ok { engine, builder }, site') := by
  obtain ⟨engine, he⟩ := connect_of_usable site config.secretFile hengine
  obtain ⟨builder, site', hb, hmodes⟩ :=
    connectBuilder_of_usable (site.tell [engine.openedEvent]) hbuilder
  have hmode : engine.mode = config.engineMode := (connect_eq_ok he).1
  have hvalidate : engine.mode.checkAgreement (builder.map (·.mode)) = config.validate := by
    rw [hmode, hmodes]
    rfl
  refine ⟨engine, builder, site', hmode, hmodes, ?_⟩
  cases hvalid : config.validate with
  | error e => simp only [new, he, hb, hvalidate, hvalid]
  | ok => simp only [new, he, hb, hvalidate, hvalid]

theorem new_of_sound (site : Site) (h : config.Sound) :
    ∃ s, (new site config).1 = .ok s ∧ s.engine.mode = config.engineMode ∧
      s.builder.map (·.mode) = config.builderMode := by
  obtain ⟨engine, builder, site', hengine, hbuilder, hnew⟩ := new_of_usable site h.engine h.builder
  rw [hnew, h.valid]
  exact ⟨_, rfl, hengine, hbuilder⟩

theorem new_of_firstFault (site : Site) {fault : ConfigurationError} (h : config.FirstFault fault) :
    (new site config).1 = .error (.configuration fault) := by
  cases h with
  | engine hengine => rw [new, connect_of_refused hengine]
  | builder hengine hbuilder =>
    obtain ⟨c, hc⟩ := connect_of_usable site config.secretFile hengine
    simp only [new, hc, connectBuilder_of_refused hbuilder]
  | modes hengine hbuilder hmixed =>
    obtain ⟨engine, builder, site', -, -, hnew⟩ := new_of_usable site hengine hbuilder
    rw [hnew, hmixed]

/-- Configurations that differ in the spelling of their endpoints alone make the
same service, or are refused alike. -/
theorem new_congr (site : Site) (h : config.Respelled config') :
    new site config = new site config' := by
  have hengine : Connection.resolve config.engineEndpoint =
      Connection.resolve config'.engineEndpoint :=
    Respelled.congr_option (fun hrespelled => hrespelled.resolve_eq) h.engine
  unfold new
  rw [connect_congr _ hengine, h.secretFile]
  simp only [connectBuilder_congr h.builder]

/-- Making a service and checking its configuration agree. -/
theorem new_agrees_with_validate (site : Site) (config : Configuration) :
    ((∃ s, (new site config).1 = .ok s) ↔
      config.validate = .ok () ∧ Usable config.engineEndpoint ∧ Usable config.builderEndpoint) ∧
    (∀ e, (new site config).1 = .error e ↔
      ∃ fault, config.FirstFault fault ∧ e = .configuration fault) ∧
    (∀ s, (new site config).1 = .ok s →
      s.engine.mode = .ofEndpoint config.engineEndpoint ∧
      s.builder.map (·.mode) =
        config.builderEndpoint.map fun text => .ofEndpoint (some text)) ∧
    (∀ (before after : Site) (endpoint secretFile : Option String) (c : Connection),
      connect before endpoint secretFile = (.ok c, after) →
        c.mode = .ofEndpoint endpoint ∧ c.mode = .ofEndpoint (some c.endpoint)) ∧
    ∀ config', config.Respelled config' →
      config'.validate = config.validate ∧ new site config' = new site config := by
  refine ⟨?_, ?_, ?_, fun _ _ _ _ _ h => mode_of_connect h,
    fun config' h => ⟨(Configuration.validate_congr h).symm, (new_congr site h).symm⟩⟩
  · constructor
    · rintro ⟨s, hs⟩
      rcases config.sound_or_firstFault with hsound | ⟨fault, hfault⟩
      · exact ⟨hsound.valid, hsound.engine, hsound.builder⟩
      · rw [new_of_firstFault site hfault] at hs
        cases hs
    · rintro ⟨hvalid, hengine, hbuilder⟩
      obtain ⟨s, hs, -⟩ := new_of_sound site ⟨hvalid, hengine, hbuilder⟩
      exact ⟨s, hs⟩
  · intro e
    constructor
    · intro he
      rcases config.sound_or_firstFault with hsound | ⟨fault, hfault⟩
      · obtain ⟨s, hs, -⟩ := new_of_sound site hsound
        rw [hs] at he
        cases he
      · rw [new_of_firstFault site hfault, Except.error.injEq] at he
        exact ⟨fault, hfault, he.symm⟩
    · rintro ⟨fault, hfault, rfl⟩
      exact new_of_firstFault site hfault
  · intro s hs
    rcases config.sound_or_firstFault with hsound | ⟨fault, hfault⟩
    · obtain ⟨s', hs', hengine, hbuilder⟩ := new_of_sound site hsound
      rw [hs', Except.ok.injEq] at hs
      rw [← hs]
      exact ⟨hengine, hbuilder⟩
    · rw [new_of_firstFault site hfault] at hs
      cases hs

/-- A text that is no URL is complained of before the modes are compared, however
the endpoints are spelled. -/
theorem new_agrees_with_validate_malformed :
    let site : Site := { dataDirectory := "./data", clock := ⟨0⟩ }
    let config : Configuration :=
      { engineEndpoint := some "node", builderEndpoint := some "stub" }
    let config' : Configuration :=
      { engineEndpoint := some "\u3000node\n", builderEndpoint := some "Stub" }
    config.validate = .error .mixedModes ∧ config.Respelled config' ∧
      (new site config').1 =
        .error (.configuration (.invalidEndpoint "'node': relative URL without a base")) := by
  intro site config config'
  have hblank : ∀ c ∈ ['\u3000'], Text.isBlank c := List.forall_mem_singleton.mpr rfl
  have hnewline : ∀ c ∈ ['\n'], Text.isBlank c := List.forall_mem_singleton.mpr rfl
  have hmarker : EndpointMode.SpellsMarker "stub" :=
    .cons (.inl rfl) (.cons (.inl rfl) (.cons (.inl rfl) (.cons (.inl rfl) .nil)))
  have hmarker' : EndpointMode.SpellsMarker "Stub" :=
    .cons (.inr rfl) (.cons (.inl rfl) (.cons (.inl rfl) (.cons (.inl rfl) .nil)))
  have hrespelled : config.Respelled config' :=
    ⟨.some (.pad "node" hblank hnewline), .some (.recase hmarker hmarker'), rfl⟩
  have hrefused : Refused config.engineEndpoint "'node': relative URL without a base" :=
    @Refused.malformed "node" .relativeWithoutBase rfl rfl
  obtain ⟨-, herror, -, -, hcongr⟩ := new_agrees_with_validate site config
  refine ⟨rfl, hrespelled, ?_⟩
  rw [(hcongr config' hrespelled).2]
  exact (herror _).mpr ⟨_, .engine hrefused, rfl⟩

end Service

end ExecutionLink
