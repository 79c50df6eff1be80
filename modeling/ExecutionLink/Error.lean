/-
The errors of the link, by where they arise, and their wordings.

`ConfigurationError` is about settings, `ClientError` about calls that never
got a usable reply, `ServiceError` about the service that owns the link.  An
error moves outwards by the functions below: they decide under which heading an
inner error is reported.
-/
import ExecutionLink.Json.Format
import ExecutionLink.Response
import ExecutionLink.Text.Quoted

namespace ExecutionLink

/-- What is wrong with the settings. -/
inductive ConfigurationError where
  /-- One endpoint is a stub and the other is live. -/
  | mixedModes
  | invalidEndpoint (detail : String)
  | serialization (detail : String)
  deriving Repr, DecidableEq

/-- Why a call has no usable reply. -/
inductive ClientError where
  | transport (detail : String)
  | timeout (detail : String)
  | decode (detail : String)
  | invalidEndpoint (detail : String)
  | stubEndpoint (endpoint : String)
  | builderNotConfigured
  | metrics (detail : String)
  deriving Repr, DecidableEq

/-- Why counters cannot be set up. -/
inductive MetricsError where
  /-- The registry already holds this counter family. -/
  | alreadyRegistered
  | labelCount (expected actual : Nat)
  | other (detail : String)
  deriving Repr, DecidableEq

/-- What is wrong in the service that owns the link. -/
inductive ServiceError where
  | configuration (inner : ConfigurationError)
  | client (inner : ClientError)
  | invalidState (detail : String)
  | metrics (detail : String)
  | storage (detail : String)
  deriving Repr, DecidableEq

/-- The result of a call: a completed response or the reason why there is none. -/
abbrev CallResult (α : Type) := Except ClientError (Response α)

/-! ### Wordings -/

/-- The wording of a configuration error. -/
def ConfigurationError.message : ConfigurationError → String
  | .mixedModes =>
    "mixed configuration with stubbed and non-stubbed execution layer endpoints is not supported"
  | .invalidEndpoint detail => s!"Invalid endpoint: {detail}"
  | .serialization detail => s!"Serialization error: {detail}"

/-- The wording of a client error. -/
def ClientError.message : ClientError → String
  | .transport detail => s!"Transport error: {detail}"
  | .timeout detail => s!"Request timed out: {detail}"
  | .decode detail => s!"Decode error: {detail}"
  | .invalidEndpoint detail => s!"Invalid endpoint: {detail}"
  | .stubEndpoint endpoint => s!"Endpoint '{endpoint}' is a stub and has no network client"
  | .builderNotConfigured => "Builder endpoint not configured"
  | .metrics detail => s!"Metrics error: {detail}"

/-- The wording of a metrics error. -/
def MetricsError.message : MetricsError → String
  | .alreadyRegistered => "Duplicate metrics collector registration attempted"
  | .labelCount expected actual =>
    s!"Inconsistent label cardinality, expect {expected} label values, but got {actual}"
  | .other detail => s!"Error: {detail}"

/-- The wording of a service error. -/
def ServiceError.message : ServiceError → String
  | .configuration inner => s!"Configuration error: {inner.message}"
  | .client inner => s!"Client error: {inner.message}"
  | .invalidState detail => s!"Invalid state: {detail}"
  | .metrics detail => s!"Metrics error: {detail}"
  | .storage detail => s!"Storage error: {detail}"

/-! ### Diagnostic forms -/

/-- A kind of error with its detail. -/
def withDetail (kind detail : String) : String := s!"{kind}({detail})"

/-- The diagnostic form of a configuration error. -/
def ConfigurationError.describe : ConfigurationError → String
  | .mixedModes => "MixedStubConfiguration"
  | .invalidEndpoint detail => withDetail "InvalidEndpoint" (Text.quoteText detail)
  | .serialization detail => withDetail "SerializationError" (Text.quoteText detail)

/-- The diagnostic form of a client error. -/
def ClientError.describe : ClientError → String
  | .transport detail => withDetail "Transport" (Text.quoteText detail)
  | .timeout detail => withDetail "Timeout" (Text.quoteText detail)
  | .decode detail => withDetail "Decode" (Text.quoteText detail)
  | .invalidEndpoint detail => withDetail "InvalidEndpoint" (Text.quoteText detail)
  | .stubEndpoint endpoint => withDetail "StubEndpoint" (Text.quoteText endpoint)
  | .builderNotConfigured => "BuilderNotConfigured"
  | .metrics detail => withDetail "Metrics" (Text.quoteText detail)

/-- The diagnostic form of a service error. -/
def ServiceError.describe : ServiceError → String
  | .configuration inner => withDetail "Config" inner.describe
  | .client inner => withDetail "Client" inner.describe
  | .invalidState detail => withDetail "InvalidState" (Text.quoteText detail)
  | .metrics detail => withDetail "Metrics" (Text.quoteText detail)
  | .storage detail => withDetail "StorageError" (Text.quoteText detail)

/-! ### Moving outwards -/

/-- The client error for a text that cannot be decoded. -/
def ClientError.ofFault (fault : Json.Fault) : ClientError :=
  .decode fault.message

/-- A configuration error met by a client. -/
def ClientError.ofConfiguration : ConfigurationError → ClientError
  | .invalidEndpoint detail => .invalidEndpoint detail
  | e => .decode e.message

/-- A metrics error met by a client. -/
def ClientError.ofMetrics (e : MetricsError) : ClientError :=
  .metrics e.message

/-- A metrics error met by the service; a bare text stays as it is. -/
def ServiceError.ofMetrics : MetricsError → ServiceError
  | .other detail => .metrics detail
  | e => .metrics e.message

/-- A client error met while the endpoints are set up: a bad endpoint is a
configuration error there. -/
def ServiceError.ofSetup : ClientError → ServiceError
  | .invalidEndpoint detail => .configuration (.invalidEndpoint detail)
  | .metrics detail => .metrics detail
  | e => .client e

/-! ### Reports -/

/-- How an error is reported to an HTTP client. -/
structure ErrorReport where
  code : String
  message : String
  deriving Repr, DecidableEq

/-- The format of reports. -/
def ErrorReport.format : Json.Format ErrorReport :=
  .record "ErrorResponse"
    (.required "error_code" .text <| .required "message" .text .nil)
    (fun r => (r.code, r.message, ()))
    (fun (code, message, ()) => ⟨code, message⟩)

/-- The report of a service error, under the heading of its kind. -/
def ServiceError.report : ServiceError → ErrorReport
  | .configuration inner => ⟨"CONFIGURATION_ERROR", inner.message⟩
  | .client inner => ⟨"CLIENT_ERROR", inner.message⟩
  | .invalidState detail => ⟨"INVALID_STATE", detail⟩
  | .metrics detail => ⟨"METRICS_ERROR", detail⟩
  | .storage detail => ⟨"STORAGE_ERROR", detail⟩

end ExecutionLink
