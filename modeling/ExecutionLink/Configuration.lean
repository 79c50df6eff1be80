/-
The settings of the link, and where they are read from.

A configuration names the engine's endpoint, the file with the engine's secret
and the builder's endpoint, each of which may be missing.  The two endpoints
must agree in mode; a missing builder agrees with any engine.

An environment gives each variable a text, if it is set and holds text at all.
Settings read from it are trimmed and blank ones are missing, except that the
data directory is taken as it is unless it is blank.
-/
import ExecutionLink.Endpoint
import ExecutionLink.Error

namespace ExecutionLink

/-- The settings of the link. -/
structure Configuration where
  engineEndpoint : Option String := none
  secretFile : Option String := none
  builderEndpoint : Option String := none
  deriving Repr, DecidableEq

/-- The two modes must be the same; without a builder there is nothing to
compare. -/
def EndpointMode.checkAgreement (engine : EndpointMode) (builder : Option EndpointMode) :
    Except ConfigurationError Unit :=
  if engine = builder.getD engine then .ok () else .error .mixedModes

namespace Configuration

/-- The configuration that only names the stub. -/
def stub : Configuration where
  engineEndpoint := some EndpointMode.stubMarker

/-- The mode of the engine's endpoint. -/
def engineMode (c : Configuration) : EndpointMode :=
  .ofEndpoint c.engineEndpoint

/-- The mode of the builder's endpoint, if there is one. -/
def builderMode (c : Configuration) : Option EndpointMode :=
  c.builderEndpoint.map fun endpoint => .ofEndpoint (some endpoint)

/-- Checks that the modes agree. -/
def validate (c : Configuration) : Except ConfigurationError Unit :=
  c.engineMode.checkAgreement c.builderMode

end Configuration

/-- The text of each variable that is set to some text. -/
abbrev Environment := String → Option String

namespace Environment

/-- A variable's text, trimmed, unless nothing is left of it. -/
def setting (env : Environment) (name : String) : Option String :=
  ((env name).map Text.trim).filter (· ≠ "")

/-- The configuration of the link. -/
def configuration (env : Environment) : Configuration where
  engineEndpoint := env.setting "EE_ENDPOINT"
  secretFile := env.setting "EE_JWT_SECRET_FILE"
  builderEndpoint := env.setting "BUILDER_ENDPOINT"

/-- The data directory used when none is set. -/
def defaultDataDirectory : String := "./data"

/-- The data directory. -/
def dataDirectory (env : Environment) : String :=
  ((env "DATA_DIR").filter (Text.trim · ≠ "")).getD defaultDataDirectory

end Environment

/-- The path of an entry of a directory. -/
def joinPath (directory entry : String) : String :=
  if directory = "" ∨ directory.toList.getLast? = some '/' then directory ++ entry
  else directory ++ "/" ++ entry

/-- The directory for the beacon node's own data. -/
def beaconDirectory (dataDirectory : String) : String :=
  joinPath dataDirectory "beacon"

end ExecutionLink
