/-
The channel to the execution layer, and the clients that answer calls on it.

A channel is the built-in stub or a connection to a live engine and possibly a
builder.  Calls to a live builder are counted in the metrics of the site;
nothing else is.
-/
import ExecutionLink.Channel.Live
import ExecutionLink.Channel.Stub
import ExecutionLink.Endpoint
import ExecutionLink.Engine
import ExecutionLink.Metrics.Metered
import ExecutionLink.Site

namespace ExecutionLink

/-- A channel, with the URLs of the live parties. -/
inductive Channel where
  | stub
  | live (engine : Url) (builder : Option Url)
  deriving Repr, DecidableEq

/-- What the calls on a channel act on: the site, the numbering of the
requests to the engine, and a network. -/
structure CallState (ν : Type) where
  site : Site
  numbering : Engine.Numbering
  network : ν

namespace CallState

variable {ν : Type}

/-- The number of the next request to the engine. -/
def takeNumber (s : CallState ν) : UInt64 × CallState ν :=
  let (id, numbering) := s.numbering.take
  (id, { s with numbering })

/-- How the calls to a builder are counted in the counters of a name. -/
def metering (name : String) :
    Metering (CallState ν) BuilderCall fun c => CallResult c.Payload where
  method := BuilderCall.method
  outcome := Outcome.ofCall
  clock s := s.site.clock
  record sample s := { s with site := s.site.recordIn name sample }

/-- How the calls to the builder of a channel are counted. -/
def builderMetering : Metering (CallState ν) BuilderCall fun c => CallResult c.Payload :=
  metering CounterMatrix.builderName

/-- The network of a state to which replies are brought from outside. -/
def exchange : Http.Transport (CallState Http.Exchange) :=
  Http.Exchange.transport.onPart (·.network) fun network s => { s with network }

end CallState

namespace Channel

variable {ν : Type}

/-- Whether a channel is the stub or live. -/
def mode : Channel → EndpointMode
  | .stub => .stub
  | .live .. => .live

/-- The events logged when a call is made. -/
def events : Channel → ChannelCall → List LogEvent
  | .stub, c => Stub.events c
  | .live _ (some _), .builder c => c.events
  | .live .., _ => []

/-- The client of a live builder, if there is one. -/
def builderClient (transport : Http.Transport (CallState ν)) :
    Option Url → BuilderClient (CallState ν)
  | none => Live.noBuilder
  | some url => (BuilderCall.client transport url).metered CallState.builderMetering

/-- The client that answers, without what is logged. -/
def quietClient (transport : Http.Transport (CallState ν)) :
    Channel → ChannelClient (CallState ν)
  | .stub => Stub.client (·.site.clock)
  | .live engine builder =>
    Live.client (Engine.client CallState.takeNumber transport engine)
      (builderClient transport builder)

/-- The client of a channel. -/
def client (transport : Http.Transport (CallState ν)) (channel : Channel) :
    ChannelClient (CallState ν) :=
  (channel.quietClient transport).announced fun c s =>
    { s with site := s.site.tell (channel.events c) }

/-- Makes a call on a channel, sending its request, if there is one, by `send`.
No call sends more than one. -/
def ask {m : Type → Type} [Monad m] (send : Http.Sent → m (Except ClientError Http.Answer))
    (channel : Channel) (c : ChannelCall) (s : CallState Http.Exchange) :
    m (CallResult c.Payload × CallState Http.Exchange) := do
  let client := channel.client CallState.exchange
  match client.call c { s with network := {} } with
  | (.answered r, s) => return (r, s)
  | (.pending call, s) =>
    let reply ← match s.network.sent with
      | request :: _ => send request
      | [] => pure (.error Http.connectionLost)
    match client.resume c call { s with network.reply := some reply } with
    | (.answered r, s) => return (r, s)
    | (.pending _, s) => return (.error Http.connectionLost, s)

end Channel

end ExecutionLink
