/-
The service that owns the channel to the execution layer.

A service connects to its endpoints when it is made, publishes one channel when
it is started, and releases whoever still waits when it is stopped.  It is
started at most once.  Starting takes two steps: `openAndPublish` makes the
channel and publishes it, `deliver` sends it to those who have waited for it;
`start` is the two in a row.
-/
import ExecutionLink.Channel.Basic
import ExecutionLink.Channel.Registry
import ExecutionLink.Connection

namespace ExecutionLink

/-- How far a service has come. A stopped one stays stopped. -/
inductive ServiceState where
  | created
  | started
  | stopped
  deriving Repr, DecidableEq

/-- The name of a state. -/
def ServiceState.name : ServiceState → String
  | .created => "Created"
  | .started => "Started"
  | .stopped => "Stopped"

/-- A service with its connections. -/
structure Service where
  engine : Connection
  builder : Option Connection
  state : ServiceState := .created
  channels : ChannelRegistry Channel := .empty
  /-- The numbering of the requests that calls on its channel make, which comes with the
  channel. -/
  numbering : Engine.Numbering := .new

namespace Service

/-! ### Making a service -/

/-- How long a peer may take to reply, in milliseconds. -/
def timeout : UInt64 := 8000

/-- Connects to an endpoint, and logs it. -/
def connect (site : Site) (endpoint secretFile : Option String) :
    Except ServiceError Connection × Site :=
  match Connection.connect endpoint timeout secretFile (beaconDirectory site.dataDirectory) with
  | .ok c => (.ok c, site.tell [c.openedEvent])
  | .error e => (.error (.ofSetup e), site)

/-- Connects to the builder's endpoint, if there is one. The secret is the
engine's alone. -/
def connectBuilder (site : Site) : Option String → Except ServiceError (Option Connection) × Site
  | none => (.ok none, site)
  | some endpoint =>
    let (c, site) := connect site (some endpoint) none
    (c.map some, site)

/-- Makes a service. The modes of the two connections must agree. -/
def new (site : Site) (config : Configuration) : Except ServiceError Service × Site :=
  match connect site config.engineEndpoint config.secretFile with
  | (.error e, site) => (.error e, site)
  | (.ok engine, site) =>
    match connectBuilder site config.builderEndpoint with
    | (.error e, site) => (.error e, site)
    | (.ok builder, site) =>
      match engine.mode.checkAgreement (builder.map (·.mode)) with
      | .error e => (.error (.configuration e), site)
      | .ok () => (.ok { engine, builder }, site)

/-! ### Events -/

/-- The event of a start: which engine is used. -/
def engineEvent (c : Connection) : LogEvent where
  level := .info
  topic := .service
  message := "Using execution engine"
  fields := [("endpoint", .plain c.endpoint)]

/-- The event of a start with a builder. -/
def builderEvent (c : Connection) : LogEvent where
  level := .info
  topic := .service
  message := "Using builder"
  fields := [("endpoint", .plain c.endpoint)]

/-- The warning that the operator gets when the stub is used. -/
def stubWarning : LogEvent where
  level := .warn
  topic := .operator
  message := "Execution layer stub is enabled! This is UNSAFE! You WILL fail to produce blocks " ++
    "and may follow an invalid chain."

/-- The event of a published channel. -/
def publishedEvent (mode : EndpointMode) (subscribers : Nat) : LogEvent where
  level := .info
  topic := .service
  message := "Execution layer channel published"
  fields := [("mode", .text mode.name), ("subscribers", .plain (toString subscribers))]

/-- The event of a stop. -/
def stoppedEvent (released : Nat) : LogEvent where
  level := .info
  topic := .service
  message := "Execution layer service stopped"
  fields := [("released", .plain (toString released))]

/-! ### Starting -/

/-- Registers the builder's counters and gives the builder's URL. -/
def openBuilder (site : Site) (c : Connection) : Except ServiceError Url × Site :=
  match c.liveUrl with
  | .error e => (.error (.ofSetup e), site)
  | .ok url =>
    match site.metrics.registerBuilder with
    | .error e => (.error (.ofSetup (.ofMetrics e)), site)
    | .ok metrics => (.ok url, { site with metrics }.tell [builderEvent c])

/-- Makes the channel, and with a live one the client that numbers the requests on it. The
operator is warned of the stub. -/
def openChannel (s : Service) (site : Site) :
    Except ServiceError (Channel × Engine.Numbering) × Site :=
  match s.engine.mode with
  | .stub => (.ok (.stub, s.numbering), site.tell [stubWarning])
  | .live =>
    match s.engine.engineClient with
    | .error e => (.error (.ofSetup e), site)
    | .ok engine =>
      match s.builder with
      | none => (.ok (.live engine.url none, engine.numbering), site)
      | some c =>
        let (builder, site) := openBuilder site c
        (builder.map fun builder => (.live engine.url (some builder), engine.numbering), site)

/-- The error of a start that comes too late. -/
def lateStart (state : ServiceState) : ServiceError :=
  .invalidState s!"cannot start execution layer service in state {state.name}"

/-- The first step of a start: makes the channel and publishes it. -/
def openAndPublish (s : Service) (site : Site) :
    Except ServiceError Channel × Service × Site :=
  if s.state ≠ .created then (.error (lateStart s.state), s, site)
  else
    match s.openChannel (site.tell [engineEvent s.engine]) with
    | (.error e, site) => (.error e, s, site)
    | (.ok (channel, numbering), site) =>
      match s.channels.setPublished channel with
      | .error e => (.error e, s, site)
      | .ok channels => (.ok channel, { s with channels, numbering }, site)

/-- The second step of a start: sends the channel to those who wait for it. -/
def deliver (s : Service) (site : Site) (channel : Channel) : Service × Site :=
  let (subscribers, channels) := s.channels.deliver channel
  ({ s with channels, state := .started },
    site.tell [publishedEvent s.engine.mode subscribers])

/-- Starts a service. -/
def start (s : Service) (site : Site) : Except ServiceError Unit × Service × Site :=
  match s.openAndPublish site with
  | (.error e, s, site) => (.error e, s, site)
  | (.ok channel, s, site) => (.ok (), s.deliver site channel)

/-! ### The other operations -/

/-- Stops a service and releases whoever still waits. -/
def stop (s : Service) (site : Site) : Except ServiceError Unit × Service × Site :=
  let (released, channels) := s.channels.close
  (.ok (), { s with channels, state := .stopped }, site.tell [stoppedEvent released])

/-- Asks for the channel, and says the receiver's number. -/
def subscribe (s : Service) : Nat × Service :=
  let (i, channels) := s.channels.subscribe
  (i, { s with channels })

/-- The published channel. -/
def channel (s : Service) : Option Channel := s.channels.published

/-- The engine's connection, if it is live. -/
def liveEngine (s : Service) : Option Connection :=
  if s.engine.mode = .live then some s.engine else none

end Service

end ExecutionLink
