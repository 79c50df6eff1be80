/-
Settings read from the environment mean what its variables say.

The text of a variable is trimmed when it is read, and a blank one is missing.
Blanks are dropped again wherever an endpoint is resolved, so trimming it before
makes no difference.  Leaving out a blank text makes none for the engine either,
whose endpoint selects the stub in both cases; for the builder it does, since a
blank endpoint would be that of a stub.

* `Environment.ofBytes` — an environment whose variables hold bytes.
* `Environment.asWritten` — the configuration with the texts of the endpoints as the
  variables have them, the blank ones left out.
* `Environment.configuration_means_variables` — what is read is neither blank nor
  padded, has the modes of the variables' own texts, and makes the same service as
  these texts do.
-/
import ExecutionLink.Proofs.Service.Construction

namespace ExecutionLink.Environment

/-- The environment whose variables hold these bytes, as far as they are set. Bytes
that are not UTF-8 are no text. -/
def ofBytes (held : String → Option (List UInt8)) : Environment :=
  fun name => (held name).bind Text.ofUtf8?

/-- The text of a variable as it is written, unless it is blank. -/
def written (env : Environment) (name : String) : Option String :=
  (env name).filter (Text.trim · ≠ "")

/-- The configuration of the link with the endpoints as they are written. -/
def asWritten (env : Environment) : Configuration where
  engineEndpoint := env.written "EE_ENDPOINT"
  secretFile := env.configuration.secretFile
  builderEndpoint := env.written "BUILDER_ENDPOINT"

variable {env : Environment} {name text : String}

/-! ### Single variables -/

theorem setting_of_none (h : env name = none) : env.setting name = none := by
  rw [setting, h]
  rfl

theorem setting_of_blank (h : env name = some text) (hblank : Text.Blank text) :
    env.setting name = none := by
  rw [setting, h, Option.map_some, Option.filter_some, Text.trim_eq_empty_iff_blank.mpr hblank]
  rfl

theorem setting_of_not_blank (h : env name = some text) (hblank : ¬Text.Blank text) :
    env.setting name = some (Text.trim text) := by
  have hne : Text.trim text ≠ "" := mt Text.trim_eq_empty_iff_blank.mp hblank
  rw [setting, h, Option.map_some, Option.filter_some, if_pos (decide_eq_true hne)]

/-- What is read is neither blank nor padded. -/
theorem bare_of_setting {read : String} (h : env.setting name = some read) :
    ¬Text.Blank read ∧ Text.Unpadded read := by
  cases htext : env name with
  | none =>
    rw [setting_of_none htext] at h
    cases h
  | some text =>
    by_cases hblank : Text.Blank text
    · rw [setting_of_blank htext hblank] at h
      cases h
    · rw [setting_of_not_blank htext hblank] at h
      cases h
      refine ⟨?_, Text.unpadded_trim text⟩
      rwa [← Text.trim_eq_empty_iff_blank, Text.trim_trim, Text.trim_eq_empty_iff_blank]

/-- A setting and the text that it was read from are two spellings of one endpoint. -/
theorem respelled_setting (env : Environment) (name : String) :
    Option.Rel Respelled (env.setting name) (env.written name) := by
  cases htext : env name with
  | none =>
    rw [setting_of_none htext, written, htext]
    exact .none
  | some text =>
    by_cases hblank : Text.Blank text
    · rw [setting_of_blank htext hblank, written, htext, Option.filter_some,
        Text.trim_eq_empty_iff_blank.mpr hblank]
      exact .none
    · have hne : Text.trim text ≠ "" := mt Text.trim_eq_empty_iff_blank.mp hblank
      rw [setting_of_not_blank htext hblank, written, htext, Option.filter_some,
        if_pos (decide_eq_true hne)]
      exact .some (.of_trim text)

theorem respelled_asWritten (env : Environment) : env.configuration.Respelled env.asWritten where
  engine := respelled_setting env "EE_ENDPOINT"
  builder := respelled_setting env "BUILDER_ENDPOINT"
  secretFile := rfl

/-! ### Modes -/

theorem ofEndpoint_of_blank (h : Text.Blank text) :
    EndpointMode.ofEndpoint (some text) = .stub := by
  rw [EndpointMode.ofEndpoint, Text.trim_eq_empty_iff_blank.mpr h]
  rfl

/-- For the engine a blank text and none are the same. -/
theorem ofEndpoint_setting (env : Environment) (name : String) :
    EndpointMode.ofEndpoint (env.setting name) = .ofEndpoint (env name) := by
  cases htext : env name with
  | none => rw [setting_of_none htext]
  | some text =>
    by_cases hblank : Text.Blank text
    · rw [setting_of_blank htext hblank, ofEndpoint_of_blank hblank]
      rfl
    · rw [setting_of_not_blank htext hblank, (Respelled.of_trim text).ofEndpoint_eq]

theorem builderMode_configuration (env : Environment) :
    env.configuration.builderMode =
      (env.setting "BUILDER_ENDPOINT").map fun text => .ofEndpoint (some text) := rfl

theorem builderMode_of_not_blank (h : env "BUILDER_ENDPOINT" = some text)
    (hblank : ¬Text.Blank text) :
    env.configuration.builderMode = some (.ofEndpoint (some text)) := by
  rw [builderMode_configuration, setting_of_not_blank h hblank, Option.map_some,
    (Respelled.of_trim text).ofEndpoint_eq]

/-- There is no builder exactly if its variable has no text with something in it. -/
theorem builderMode_eq_none_iff :
    env.configuration.builderMode = none ↔
      ∀ text, env "BUILDER_ENDPOINT" = some text → Text.Blank text := by
  constructor
  · intro h text htext
    by_contra hblank
    rw [builderMode_of_not_blank htext hblank] at h
    cases h
  · intro h
    rw [builderMode_configuration]
    cases htext : env "BUILDER_ENDPOINT" with
    | none => rw [setting_of_none htext, Option.map_none]
    | some text => rw [setting_of_blank htext (h text htext), Option.map_none]

/-- A blank endpoint is none for the builder, though by itself it selects the stub. -/
example : (configuration fun _ => some " ").builderMode = none ∧
    EndpointMode.ofEndpoint (some " ") = .stub := by decide

/-! ### The main result -/

/-- Whatever bytes the variables hold, what is read from them has no blanks around it
and is not blank, has the modes that the variables' own texts have, and is checked
and made a service of, or refused, like these texts. -/
theorem configuration_means_variables (held : String → Option (List UInt8)) :
    let env : Environment := ofBytes held
    let config := env.configuration
    (∀ text, config.engineEndpoint = some text ∨ config.builderEndpoint = some text ∨
        config.secretFile = some text → ¬Text.Blank text ∧ Text.Unpadded text) ∧
    config.engineMode = .ofEndpoint (env "EE_ENDPOINT") ∧
    (config.builderMode = none ↔
      ∀ text, env "BUILDER_ENDPOINT" = some text → Text.Blank text) ∧
    (∀ text, env "BUILDER_ENDPOINT" = some text → ¬Text.Blank text →
      config.builderMode = some (.ofEndpoint (some text))) ∧
    config.validate = env.asWritten.validate ∧
    ∀ site, Service.new site config = Service.new site env.asWritten := by
  intro env config
  have hrespelled : config.Respelled env.asWritten := respelled_asWritten env
  refine ⟨?_, ofEndpoint_setting env "EE_ENDPOINT", builderMode_eq_none_iff,
    fun text htext hblank => builderMode_of_not_blank htext hblank,
    Configuration.validate_congr hrespelled, fun site => Service.new_congr site hrespelled⟩
  rintro text (h | h | h)
  · exact bare_of_setting h
  · exact bare_of_setting h
  · exact bare_of_setting h

end ExecutionLink.Environment
