/-
The builder API: the calls that can be made to a block builder, the request
each of them sends, and what its answer means.

`BuilderCall.request` and `BuilderCall.interpret` are the two halves of a call.
An answer with a status outside 200 to 299 is a refusal whatever its body is;
its message is taken from the body if that is an error body, and otherwise shows
the status and the body's text.
-/
import ExecutionLink.Http
import ExecutionLink.Log
import ExecutionLink.Payload
import ExecutionLink.Text.Blank

namespace ExecutionLink

open Json (Format Value)

/-- A call to a builder. -/
inductive BuilderCall where
  | status
  | registerValidators (slot : UInt64) (registrations : List SignedValidatorRegistration)
  | getHeader (slot : UInt64) (pubkey : PublicKey) (parentHash : Bytes32)
  | getPayload (block : SignedBlindedBeaconBlock)

namespace BuilderCall

/-- What a successful call gives. A builder may have no bid for a slot. -/
abbrev Payload : BuilderCall → Type
  | .status => Unit
  | .registerValidators .. => Unit
  | .getHeader .. => Option SignedBuilderBid
  | .getPayload _ => ExecutionPayload

/-- The name under which a call is counted. -/
def method : BuilderCall → String
  | .status => "status"
  | .registerValidators .. => "register_validators"
  | .getHeader .. => "get_header"
  | .getPayload _ => "get_payload"

/-! ### Requests -/

/-- The path of a header: slot, parent hash and public key. -/
def headerPath (slot : UInt64) (parentHash : Bytes32) (pubkey : PublicKey) : String :=
  "/".intercalate ["/eth/v1/builder/header", Text.Natural.render slot, parentHash.hex, pubkey.hex]

/-- The request of a call. The members of a body are in the order of their keys. -/
def request : BuilderCall → Http.Request
  | .status => ⟨.get, "/eth/v1/builder/status", .null⟩
  | .registerValidators _ registrations =>
    ⟨.post, "/eth/v1/builder/validators",
      (SignedValidatorRegistration.format.list.encode registrations).sorted⟩
  | .getHeader slot pubkey parentHash => ⟨.get, headerPath slot parentHash pubkey, .null⟩
  | .getPayload block =>
    ⟨.post, "/eth/v1/builder/blinded_blocks",
      (SignedBlindedBeaconBlock.format.encode block).sorted⟩

/-- The events a client logs when a call is made. -/
def events : BuilderCall → List LogEvent
  | .registerValidators slot registrations =>
    [{ level := .debug
       topic := .builder
       message := "Registering validators with builder"
       fields := [("slot", .plain (Text.Natural.render slot)),
         ("count", .plain (toString registrations.length))] }]
  | _ => []

end BuilderCall

/-! ### Answers -/

/-- The object that holds the data of an answer. -/
structure DataEnvelope (α : Type) where
  data : α

/-- The format of envelopes. -/
def DataEnvelope.format {α : Type} (f : Format α) : Format (DataEnvelope α) :=
  .record "DataEnvelope" (.required "data" f .nil) (fun e => (e.data, ())) (fun (a, ()) => ⟨a⟩)

/-- The body of a refusal. -/
structure ErrorBody where
  code : Option Nat
  message : Option String

/-- The format of error bodies. -/
def ErrorBody.format : Format ErrorBody :=
  .record "ErrorBody" (.optional "code" .natural16 <| .optional "message" .text .nil)
    (fun e => (e.code, e.message, ()))
    (fun (code, message, ()) => ⟨code, message⟩)

namespace BuilderCall

/-- The message of a refusal whose body is no error body with a message. -/
def plainFailure (a : Http.Answer) : String :=
  if Text.trim a.body = "" then s!"HTTP {a.status}" else s!"HTTP {a.status}: {Text.trim a.body}"

/-- The message of a refusal. -/
def failureMessage (a : Http.Answer) : String :=
  match ErrorBody.format.read a.body with
  | .ok ⟨code, some message⟩ => s!"{code.getD a.status}: {message}"
  | _ => plainFailure a

/-- An answer from which only its status is of interest. -/
def interpretStatus (a : Http.Answer) : Response Unit :=
  if a.isSuccess then .success () else .failure (failureMessage a)

/-- An answer with data. -/
def interpretData {α : Type} (f : Format α) (a : Http.Answer) : CallResult α :=
  if a.isSuccess then
    match (DataEnvelope.format f).read a.body with
    | .ok envelope => .ok (.success envelope.data)
    | .error fault => .error (.ofFault fault)
  else .ok (.failure (failureMessage a))

/-- The status that says that there is no bid. -/
def noBid : Nat := 204

/-- What the answer to a call means. -/
def interpret : (c : BuilderCall) → Http.Answer → CallResult c.Payload
  | .status, a => .ok (interpretStatus a)
  | .registerValidators .., a => .ok (interpretStatus a)
  | .getHeader .., a =>
    if a.status = noBid then .ok (.success none)
    else (interpretData SignedBuilderBid.format a).map (·.map some)
  | .getPayload _, a => interpretData ExecutionPayload.format a

/-- What a call comes to, given what became of its request. -/
def receive (c : BuilderCall) (received : Except ClientError Http.Answer) : CallResult c.Payload :=
  match received with
  | .ok a => c.interpret a
  | .error e => .error e

/-- The request of a call to the builder at a URL. The API's paths start at the
root of the builder's host. -/
def sent (url : Url) (c : BuilderCall) : Http.Sent :=
  ⟨c.request.method, url.withPath c.request.path, c.request.body⟩

/-- The client of the builder at a URL. -/
def client {σ : Type} (transport : Http.Transport σ) (url : Url) :
    Delegate σ BuilderCall fun c => CallResult c.Payload :=
  transport.via (sent url) receive

end BuilderCall

end ExecutionLink
