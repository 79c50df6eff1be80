/-
The engine API: the one remote procedure that is used, whether the engine is
still syncing.

Every request carries a number of its own.  A reply holds a result or an error;
the result is `false` when the engine is in sync and otherwise `true` or an
object that describes the progress.
-/
import ExecutionLink.Http
import ExecutionLink.Text.Blank

namespace ExecutionLink

open Json (Format Value)

namespace Engine

/-- The name of the procedure. -/
def syncingMethod : String := "eth_syncing"

/-- The request with the given number. -/
def syncingRequest (id : UInt64) : Value :=
  .object [("jsonrpc", .string "2.0"), ("id", .natural id), ("method", .string syncingMethod),
    ("params", .array [])]

/-- An error that the engine reports. -/
structure RpcError where
  code : Int
  message : String

/-- The format of errors. -/
def RpcError.format : Format RpcError :=
  .record "JsonRpcError" (.required "code" .integer64 <| .required "message" .text .nil)
    (fun e => (e.code, e.message, ()))
    (fun (code, message, ()) => ⟨code, message⟩)

/-- A reply; a null result or error is the same as none. -/
structure RpcReply where
  result : Option Value
  error : Option RpcError

/-- The format of replies. -/
def RpcReply.format : Format RpcReply :=
  .record "JsonRpcResponse" (.omissible "result" .any <| .omissible "error" RpcError.format .nil)
    (fun r => (r.result, r.error, ()))
    (fun (result, error, ()) => ⟨result, error⟩)

/-- The reply that a body holds. -/
def readReply (body : String) : Except ClientError RpcReply :=
  (RpcReply.format.read body).mapError .ofFault

/-- What a reply says about syncing. -/
def RpcReply.syncing (r : RpcReply) : CallResult Bool :=
  match r.error with
  | some e => .ok (.failure s!"{e.code}: {e.message}")
  | none =>
    match r.result with
    | some (.bool b) => .ok (.success b)
    | some (.object _) => .ok (.success true)
    | other =>
      .error (.decode s!"unexpected {syncingMethod} result: {(other.getD .null).render}")

/-- What the body of an answer says about syncing. -/
def interpretBody (body : String) : CallResult Bool :=
  match readReply body with
  | .ok reply => reply.syncing
  | .error e => .error e

/-- What an answer says about syncing. An answer that is no success counts as no
reply at all. -/
def interpret (a : Http.Answer) : CallResult Bool :=
  if a.isSuccess then interpretBody a.body
  else .error (.transport s!"engine returned HTTP {a.status}: {Text.trim a.body}")

/-- What a call comes to, given what became of its request. -/
def receive (received : Except ClientError Http.Answer) : CallResult Bool :=
  match received with
  | .ok a => interpret a
  | .error e => .error e

/-! ### Numbering -/

/-- The number of a client's next request. -/
structure Numbering where
  next : UInt64
  deriving Repr, DecidableEq

/-- The numbering of a client that has made no request. -/
def Numbering.new : Numbering := ⟨1⟩

/-- The next number, and the numbering afterwards. A number is used up whatever
becomes of its request. -/
def Numbering.take (n : Numbering) : UInt64 × Numbering :=
  (n.next, ⟨n.next + 1⟩)

/-- What a client of an engine keeps: where the engine is, and the numbering of its own
requests. -/
structure Handle where
  url : Url
  numbering : Numbering
  deriving Repr, DecidableEq

/-- A client that has made no request. -/
def Handle.new (url : Url) : Handle := ⟨url, .new⟩

/-- The request with a given number to the engine at a URL. -/
def sent (url : Url) (id : UInt64) : Http.Sent :=
  ⟨.post, url, syncingRequest id⟩

/-- The client of the engine at a URL. Each call takes the next number from the
state when it starts. -/
def client {σ : Type} (take : σ → UInt64 × σ) (transport : Http.Transport σ) (url : Url) :
    Delegate σ Unit fun _ => CallResult Bool where
  Pending _ := (id : UInt64) × transport.Pending (sent url id)
  start _ s :=
    let (id, s) := take s
    let (pending, s) := transport.start (sent url id) s
    (⟨id, pending⟩, s)
  resume _ call s :=
    match transport.resume (sent url call.1) call.2 s with
    | (.answered r, s) => (.answered (receive r), s)
    | (.pending pending, s) => (.pending ⟨call.1, pending⟩, s)
  giveUp _ call s := transport.giveUp (sent url call.1) call.2 s

end Engine

end ExecutionLink
