/-
Connections to the endpoints of a configuration.

Connecting resolves an endpoint and, if it is live, reads its URL;
nothing is sent.  Only URLs over HTTP are accepted.
-/
import ExecutionLink.Configuration
import ExecutionLink.Engine
import ExecutionLink.Log
import ExecutionLink.Text.Duration
import ExecutionLink.Text.Quoted
import ExecutionLink.Url.Basic

namespace ExecutionLink

/-- A resolved endpoint with the settings of its clients. The timeout is in
milliseconds. -/
structure Connection where
  endpoint : String
  /-- The URL of a live endpoint. -/
  url : Option Url
  timeout : UInt64
  secretFile : Option String
  dataDirectory : String
  deriving Repr, DecidableEq

namespace Connection

/-- The URL of a live endpoint. -/
def parseUrl (text : String) : Except ClientError Url :=
  match Url.parse text with
  | .error e => .error (.invalidEndpoint s!"'{text}': {e.message}")
  | .ok url =>
    if url.scheme = "http" ∨ url.scheme = "https" then .ok url
    else .error (.invalidEndpoint s!"'{text}': unsupported scheme '{url.scheme}'")

/-- Resolves an endpoint. -/
def resolve (endpoint : Option String) : Except ClientError (String × Option Url) :=
  match EndpointMode.ofEndpoint endpoint with
  | .stub => .ok (EndpointMode.stubMarker, none)
  | .live =>
    let text := Text.trim (endpoint.getD "")
    (parseUrl text).map fun url => (text, some url)

/-- Resolves an endpoint and keeps it together with its settings. -/
def connect (endpoint : Option String) (timeout : UInt64) (secretFile : Option String)
    (dataDirectory : String) : Except ClientError Connection :=
  (resolve endpoint).map fun (endpoint, url) =>
    { endpoint, url, timeout, secretFile, dataDirectory }

/-- Whether the endpoint is the stub or a live peer. -/
def mode (c : Connection) : EndpointMode :=
  if c.url.isSome then .live else .stub

/-- The event logged when a connection is opened. -/
def openedEvent (c : Connection) : LogEvent where
  level := .debug
  topic := .connection
  message := "Resolved execution endpoint"
  fields := [("endpoint", .plain c.endpoint), ("stub", .plain (toString c.url.isNone))]

/-- The URL that clients use; the stub has none. -/
def liveUrl (c : Connection) : Except ClientError Url :=
  match c.url with
  | some url => .ok url
  | none => .error (.stubEndpoint c.endpoint)

/-- A new client of a live engine, which numbers its requests by itself. -/
def engineClient (c : Connection) : Except ClientError Engine.Handle :=
  c.liveUrl.map .new

/-- The connection in words. -/
def describe (c : Connection) : String :=
  let mode := match c.mode with
    | .stub => "Stub"
    | .live => "Live"
  let secretFile := match c.secretFile with
    | none => "None"
    | some path => s!"Some({Text.quoteText path})"
  let fields := ", ".intercalate
    [s!"endpoint: {Text.quoteText c.endpoint}", s!"mode: {mode}",
      s!"timeout: {Text.durationText c.timeout.toNat}", s!"jwt_secret_file: {secretFile}",
      s!"data_dir: {Text.quoteText c.dataDirectory}"]
  "ClientProvider \x7b " ++ fields ++ " \x7d"

end Connection

end ExecutionLink
