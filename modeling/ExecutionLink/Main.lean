/-
The command line.

The program takes its settings from the environment and no arguments.  Events
go to the output, and the reason why the program does not start goes to the
error output, with exit code 1.  Everything that is decided is decided in
`Program`; what is here reads the environment and the clock, carries bytes and
waits.
-/
import ExecutionLink.Http.Wire
import ExecutionLink.Program
import Std.Async.DNS
import Std.Async.Signal
import Std.Async.TCP
import Std.Async.Timer
import Std.Time.DateTime.Timestamp

open Std.Async

namespace ExecutionLink.Program

/-! ### What is around the program -/

/-- The variables that the program reads. -/
def settingNames : List String :=
  ["EE_ENDPOINT", "BUILDER_ENDPOINT", "EE_JWT_SECRET_FILE", "DATA_DIR", "METRICS_ADDR",
    "RUST_LOG"]

/-- Reads the environment. -/
def readEnvironment : IO Environment := do
  let values ← settingNames.mapM fun name => return (name, ← IO.getEnv name)
  return fun name => (values.lookup name).join

/-- Reads the clock. -/
def readClock : IO Clock := do
  let now ← Std.Time.Timestamp.now
  return ⟨UInt64.ofNat now.toMillisecondsSinceUnixEpoch.val.toNat⟩

/-- Shows events. -/
def showEvents (env : Environment) (events : List LogEvent) : IO Unit := do
  for line in lines env events do
    IO.println line
  (← IO.getStdout).flush

/-- Shows the events that a step has added. -/
def showNew (env : Environment) (before after : Running) : IO Unit :=
  showEvents env (after.site.log.drop before.site.log.length)

/-! ### Connections -/

/-- Eight groups as an address. -/
def ipv6OfGroups (groups : List Nat) : Std.Net.IPv6Addr :=
  ⟨Vector.ofFn fun i => UInt16.ofNat (groups.getD i 0)⟩

/-- Where a socket address leads. -/
def socketOf (a : SocketAddress) : Std.Net.SocketAddress :=
  let port := UInt16.ofNat a.port
  match a.ip with
  | .v4 b c d e =>
    .v4 ⟨.ofParts (UInt8.ofNat b) (UInt8.ofNat c) (UInt8.ofNat d) (UInt8.ofNat e), port⟩
  | .v6 groups _ => .v6 ⟨ipv6OfGroups groups, port⟩

/-- The addresses of the peer at a URL. -/
def addressesOf (url : Url) : Async (List Std.Net.SocketAddress) := do
  let port := url.effectivePort
  match url.host with
  | none => return []
  | some host =>
    match host.ip? with
    | some ip => return [socketOf ⟨ip, port⟩]
    | none =>
      let found ← DNS.getAddrInfo host.render (toString port)
      return found.toList.map fun
        | .v4 addr => .v4 ⟨addr, UInt16.ofNat port⟩
        | .v6 addr => .v6 ⟨addr, UInt16.ofNat port⟩

/-- Connects to the first address at which somebody listens. -/
def connectTo : List Std.Net.SocketAddress → Async (Option TCP.Socket.Client)
  | [] => return none
  | address :: others => do
    let socket ← TCP.Socket.Client.mk
    try
      socket.connect address
      return some socket
    catch _ => connectTo others

/-- Receives bytes until they can be read; `read` is told whether more may
come. -/
partial def receive {α : Type} (socket : TCP.Socket.Client)
    (read : Bool → List UInt8 → Option α) (bytes : List UInt8) : Async (Option α) := do
  match read false bytes with
  | some a => return some a
  | none =>
    match ← socket.recv? 4096 with
    | some more => receive socket read (bytes ++ more.toList)
    | none => return read true bytes

/-- Sends a message and ends it. -/
def send (socket : TCP.Socket.Client) (message : String) : Async Unit :=
  socket.send message.toUTF8

/-- Takes a request to its peer. Peers that want encrypted messages are not
understood. -/
def exchange (r : Http.Sent) : Async Http.PeerReply := do
  if r.url.scheme ≠ "http" then return .closed
  try
    match ← connectTo (← addressesOf r.url) with
    | none => return .closed
    | some socket =>
      send socket r.message
      return (← receive socket Http.Wire.reply? []).getD .closed
  catch _ => return .closed

/-- Takes a request to its peer and waits no longer than the given number of
milliseconds. -/
def exchangeWithin (millis : Nat) (r : Http.Sent) : Async (Except ClientError Http.Answer) := do
  let late : Async Http.PeerReply := do
    sleep (.ofNat millis)
    return .silent
  have : Inhabited Http.PeerReply := ⟨.silent⟩
  return (← Async.race (exchange r) late).receive

/-! ### Running -/

/-- Asks the engine whether it is syncing. -/
def askEngineAloud (env : Environment) (running : Running) : Async Unit := do
  let asked ← running.askEngine (exchangeWithin running.service.engine.timeout.toNat)
  showNew env running asked

/-- Replies to the one request of a connection. -/
def replyOn (running : Running) (socket : TCP.Socket.Client) : Async Unit := do
  match ← receive socket Http.Wire.request? [] with
  | some (some (method, target)) => send socket (running.reply method target).message
  | _ => return ()
  socket.shutdown

/-- What the program waits for while it serves its metrics. -/
inductive Occasion where
  | connection (socket : TCP.Socket.Client)
  | interrupt

/-- Replies to requests until the program is interrupted. -/
partial def serveUntilInterrupted (running : Running) (listener : TCP.Socket.Server)
    (interrupt : Signal.Waiter) : Async Unit := do
  let occasion ← Selectable.one #[
    .case listener.acceptSelector fun socket => return Occasion.connection socket,
    .case interrupt.selector fun _ => return Occasion.interrupt]
  match occasion with
  | .interrupt => return ()
  | .connection socket =>
    background do
      try replyOn running socket catch _ => return ()
    serveUntilInterrupted running listener interrupt

/-- Runs the program from the moment its service has started. -/
def continueWith (env : Environment) (running : Running) : Async (Except Failure Unit) := do
  background (askEngineAloud env running)
  let listener ← TCP.Socket.Server.mk
  listener.bind (socketOf running.address)
  listener.listen 128
  let interrupt ← Signal.Waiter.mk .sigint true
  showNew env running running.serve
  serveUntilInterrupted running.serve listener interrupt
  let (stopped, ended) := running.serve.stop
  showNew env running.serve ended
  return stopped

/-- Reports that the program failed. -/
def fail (report : String) : IO UInt32 := do
  IO.eprintln report
  return 1

/-- Runs the program; the result is its exit code. -/
def run : IO UInt32 := do
  let env ← readEnvironment
  let (outcome, events) := start env (← readClock)
  showEvents env events
  match outcome with
  | .error failure => fail failure.report
  | .ok running =>
    try
      match ← (continueWith env running).block with
      | .ok () => return 0
      | .error failure => fail failure.report
    catch e => fail s!"Error: {e}"

end ExecutionLink.Program

/-- The program. -/
def main : IO UInt32 := ExecutionLink.Program.run
