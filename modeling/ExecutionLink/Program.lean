/-
A run of the program.

The program starts a service with the settings of its environment, asks the
engine once whether it is syncing, serves its metrics until it is interrupted,
and stops the service.  `begin` is everything up to the first contact with the
network; what follows are the events and the last step.
-/
import ExecutionLink.Log.Filter
import ExecutionLink.Metrics.Page
import ExecutionLink.Service
import ExecutionLink.SocketAddress

namespace ExecutionLink.Program

/-- Where the metrics are served unless the environment says otherwise. -/
def defaultAddress : String := "127.0.0.1:8008"

/-- Why the program does not start. -/
inductive Failure where
  /-- The address for the metrics is no socket address. -/
  | address
  | service (e : ServiceError)
  deriving Repr, DecidableEq

/-- The diagnostic form of a failure. -/
def Failure.describe : Failure → String
  | .address => "AddrParseError(Socket)"
  | .service e => e.describe

/-- The line that reports a failure. -/
def Failure.report (f : Failure) : String := s!"Error: {f.describe}"

/-- The program once its service has started. -/
structure Running where
  address : SocketAddress
  service : Service
  site : Site
  /-- The receiver through which the program itself gets the channel. -/
  receiver : Nat

/-! ### Events -/

/-- The event of a start. -/
def startingEvent (env : Environment) : LogEvent where
  level := .info
  topic := .program
  message := "Starting execution layer service"
  fields := [("data_dir", .plain env.dataDirectory),
    ("engine_mode", .text env.configuration.engineMode.name),
    ("builder_mode", .text (env.configuration.builderMode.elim "none" (·.name)))]

/-- The event that tells what the engine said about syncing. -/
def syncingEvent (mode : EndpointMode) : CallResult Bool → LogEvent
  | .ok (.success syncing) =>
    { level := .info
      topic := .program
      message := "Execution engine reachable"
      fields := [("mode", .text mode.name), ("syncing", .plain (toString syncing))] }
  | .ok (.failure message) =>
    { level := .warn
      topic := .program
      message := "Execution engine rejected eth_syncing"
      fields := [("error", .plain message)] }
  | .error e =>
    { level := .warn
      topic := .program
      message := "Execution engine unreachable"
      fields := [("error", .plain e.message)] }

/-- The event of a metrics page that is being served. -/
def servingEvent (address : SocketAddress) : LogEvent where
  level := .info
  topic := .program
  message := "Serving metrics"
  fields := [("metrics_addr", .plain address.render)]

/-! ### Running -/

/-- Starts the service. The address of the metrics comes first: if it is wrong,
nothing is logged. -/
def start (env : Environment) (clock : Clock) : Except Failure Running × List LogEvent :=
  match SocketAddress.parse? ((env "METRICS_ADDR").getD defaultAddress) with
  | none => (.error .address, [])
  | some address =>
    let p : Site :=
      { dataDirectory := env.dataDirectory, clock, log := [startingEvent env] }
    match Service.new p env.configuration with
    | (.error e, p) => (.error (.service e), p.log)
    | (.ok service, p) =>
      let (receiver, service) := service.subscribe
      match service.start p with
      | (.error e, _, p) => (.error (.service e), p.log)
      | (.ok (), service, site) => (.ok { address, service, site, receiver }, site.log)

namespace Running

/-- Takes the channel out of the program's receiver. -/
def takeChannel (r : Running) : Option Channel × Running :=
  let (glance, channels) := r.service.channels.poll r.receiver
  let r := { r with service.channels := channels }
  match glance with
  | .ready channel => (some channel, r)
  | _ => (none, r)

/-- What a call on the program's channel acts on. -/
def callState (r : Running) : CallState Http.Exchange :=
  ⟨r.site, r.service.numbering, {}⟩

/-- Asks the engine whether it is syncing and logs what it said, sending the
request by `send`. -/
def askEngine {m : Type → Type} [Monad m]
    (send : Http.Sent → m (Except ClientError Http.Answer)) (r : Running) : m Running := do
  match r.takeChannel with
  | (none, r) => return r
  | (some channel, r) =>
    let (result, s) ← channel.ask send .engineSyncing r.callState
    return { r with
      service.numbering := s.numbering
      site := s.site.tell [syncingEvent channel.mode result] }

/-- Logs that the metrics are being served. -/
def serve (r : Running) : Running :=
  { r with site := r.site.tell [servingEvent r.address] }

/-- The reply to a request for the metrics. -/
def reply (r : Running) (method target : String) : Http.Reply :=
  MetricsPage.reply r.site.metrics method target

/-- Stops the service. -/
def stop (r : Running) : Except Failure Unit × Running :=
  let (result, service, site) := r.service.stop r.site
  (result.mapError .service, { r with service, site })

end Running

/-- The lines of the events that the environment asks for. -/
def lines (env : Environment) (events : List LogEvent) : List String :=
  (LogFilter.ofSetting (env "RUST_LOG")).lines events

end ExecutionLink.Program
