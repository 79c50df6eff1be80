/-
HTTP exchanges as the clients see them.

A request goes to a peer; what the peer does with it is a `PeerReply`.  Only an
answer that arrives whole is an `Answer`; everything else ends the call without
one.
-/
import ExecutionLink.Delegate
import ExecutionLink.Error
import ExecutionLink.Text.Encoding
import ExecutionLink.Url.Basic

namespace ExecutionLink.Http

open Json (Value)

/-- The method of a request. -/
inductive Method where
  | get
  | post
  deriving Repr, DecidableEq

/-- The name of a method. -/
def Method.name : Method → String
  | .get => "GET"
  | .post => "POST"

/-- A request of an API: what is asked for, and the body of a `post`. -/
structure Request where
  method : Method
  path : String
  body : Value

/-- A request as it is sent to a URL. -/
structure Sent where
  method : Method
  url : Url
  body : Value

/-- What the peer is asked for: a path with a query. -/
def Sent.target (r : Sent) : String := r.url.target

/-- What a sender accepts: JSON for a `get`, anything for a `post`. -/
def Sent.accept (r : Sent) : String :=
  match r.method with
  | .get => "application/json"
  | .post => "*/*"

/-- The type of the body, if there is one. -/
def Sent.contentType? (r : Sent) : Option String :=
  match r.method with
  | .get => none
  | .post => some "application/json"

/-- The body, if there is one. -/
def Sent.body? (r : Sent) : Option Value :=
  match r.method with
  | .get => none
  | .post => some r.body

/-- A reply that arrived whole. -/
structure Answer where
  status : Nat
  body : String
  deriving Repr, DecidableEq

/-- What carries requests to peers and brings back their answers. A request is what is
handed to the HTTP client, which may follow redirects by itself; an answer is the last one
that came, without its headers. -/
abbrev Transport (σ : Type) := Delegate σ Sent fun _ => Except ClientError Answer

/-- Whether the status says that the request was served. -/
def Answer.isSuccess (a : Answer) : Bool :=
  200 ≤ a.status && a.status < 300

/-- What a peer does with a request. -/
inductive PeerReply where
  | answer (status : Nat) (body : List UInt8)
  /-- The connection is closed or refused before an answer. -/
  | closed
  /-- The connection is closed in the middle of the body. -/
  | truncated
  /-- Nothing comes until the caller gives up. -/
  | silent

/-- The error of a call whose connection broke. -/
def connectionLost : ClientError := .transport "connection lost before the reply was complete"

/-- The error of a call that nobody answered in time. -/
def noReplyInTime : ClientError := .timeout "no reply in time"

/-- Whether a status comes without a body: the one by which a peer changes to
another protocol, the one of an answer without content, and the one of content
that the client has already. -/
def hasNoBody (status : Nat) : Bool := status = 101 || status = 204 || status = 304

/-- Whether a status announces that the reply is still to come. -/
def isInterim (status : Nat) : Bool := 100 ≤ status && status < 200 && status ≠ 101

/-- Whether a number can be a status: it has three digits. -/
def isStatus (n : Nat) : Bool := 100 ≤ n && n ≤ 999

/-- What becomes of a peer's reply. Behind an interim status the connection ends
without the reply. -/
def PeerReply.receive : PeerReply → Except ClientError Answer
  | .answer status body =>
    if isStatus status && !isInterim status then
      .ok ⟨status, if hasNoBody status then "" else Text.decodeMarked body⟩
    else .error connectionLost
  | .closed | .truncated => .error connectionLost
  | .silent => .error noReplyInTime

/-! ### Replies brought from outside -/

/-- Requests that were sent, the latest first, and the reply that was brought for
the latest one. -/
structure Exchange where
  sent : List Sent := []
  reply : Option (Except ClientError Answer) := none

/-- A request is pending until a reply is brought. -/
def Exchange.transport : Transport Exchange where
  Pending _ := Unit
  start r x := ((), ⟨r :: x.sent, none⟩)
  resume _ _ x :=
    match x.reply with
    | some reply => (.answered reply, ⟨x.sent, none⟩)
    | none => (.pending (), x)
  giveUp _ _ x := x

/-! ### Replies of this program -/

/-- A reply that this program gives itself. -/
structure Reply where
  status : Nat
  contentType : Option String := none
  allow : Option String := none
  body : String := ""
  deriving Repr, DecidableEq

/-- The reply that reports an error. -/
def Reply.ofError (e : ServiceError) : Reply where
  status := 500
  contentType := some "application/json"
  body := ErrorReport.format.write e.report

end ExecutionLink.Http
