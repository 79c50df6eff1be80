/-
HTTP messages on the wire.

A request is written with the length of its body, and it asks that the
connection be closed behind the reply.  `Wire.reply?` looks at the bytes of a
reply that have come so far and gives nothing as long as the reply may go on.
How a body ends is its framing: at a length that the head announces, with the
last of its chunks, or with the connection.
-/
import ExecutionLink.Http
import ExecutionLink.SocketAddress
import ExecutionLink.Text.Blank

namespace ExecutionLink

/-- The IP address that a host is, if it is no domain. -/
def Url.Host.ip? : Url.Host → Option IpAddress
  | .domain _ => none
  | .ipv4 n => some (.v4 (n / 16777216) (n / 65536 % 256) (n / 256 % 256) (n % 256))
  | .ipv6 parts => some (.v6 parts 0)

/-- The host as it is written in a URL. -/
def Url.Host.render : Url.Host → String
  | .domain name => String.ofList name
  | .ipv4 n => SocketAddress.renderIpv4 (n / 16777216) (n / 65536 % 256) (n / 256 % 256) (n % 256)
  | .ipv6 parts => s!"[{SocketAddress.renderIpv6 parts}]"

/-- The host of a URL, and its port unless it is the scheme's own. -/
def Url.authority (u : Url) : String :=
  (u.host.elim "" (·.render)) ++ u.port.elim "" fun port => s!":{port}"

namespace Http

/-! ### Writing -/

/-- A message: its first line, its fields and its body. -/
def messageText (first : String) (fields : List (String × String)) (body : String) : String :=
  let lines := first :: fields.map fun (name, value) => s!"{name}: {value}"
  String.join (lines.map (· ++ "\r\n")) ++ "\r\n" ++ body

/-- A request on the wire. -/
def Sent.message (r : Sent) : String :=
  let body := r.body?.map (·.render)
  let fields :=
    [("host", r.url.authority), ("accept", r.accept), ("connection", "close")] ++
      (r.contentType?.map fun type => ("content-type", type)).toList ++
      (body.map fun text => ("content-length", toString text.utf8ByteSize)).toList
  messageText s!"{r.method.name} {r.target} HTTP/1.1" fields (body.getD "")

/-- The phrase that goes with a status of this program. -/
def reason : Nat → String
  | 200 => "OK"
  | 400 => "Bad Request"
  | 404 => "Not Found"
  | 405 => "Method Not Allowed"
  | _ => "Internal Server Error"

/-- A reply on the wire. -/
def Reply.message (r : Reply) : String :=
  let fields :=
    (r.contentType.map fun type => ("content-type", type)).toList ++
      (r.allow.map fun methods => ("allow", methods)).toList ++
      [("connection", "close"), ("content-length", toString r.body.utf8ByteSize)]
  messageText s!"HTTP/1.1 {r.status} {reason r.status}" fields r.body

/-! ### Reading -/

namespace Wire

/-- The bytes before the first line break and those behind it. -/
def splitLine : List UInt8 → Option (List UInt8 × List UInt8)
  | 13 :: 10 :: rest => some ([], rest)
  | b :: rest => (splitLine rest).map fun (line, behind) => (b :: line, behind)
  | [] => none

theorem length_of_splitLine {bs line behind : List UInt8}
    (h : splitLine bs = some (line, behind)) : behind.length < bs.length := by
  fun_induction splitLine bs generalizing line with
  | case1 rest =>
    obtain ⟨rfl, rfl⟩ := Prod.mk.inj (Option.some.inj h)
    simp only [List.length_cons]; omega
  | case2 b rest _ ih =>
    obtain ⟨p, hp, he⟩ := Option.map_eq_some_iff.1 h
    obtain ⟨rfl, rfl⟩ := Prod.mk.inj he
    have := ih hp
    simp only [List.length_cons]; omega
  | case3 => simp at h

/-- A line as text, a character for each byte. -/
def lineText (line : List UInt8) : String :=
  String.ofList (line.map fun b => Char.ofNat b.toNat)

/-- The lines before an empty line and the bytes behind it. -/
def splitHead (bs : List UInt8) : Option (List String × List UInt8) :=
  match _ : splitLine bs with
  | none => none
  | some ([], behind) => some ([], behind)
  | some (line, behind) =>
    (splitHead behind).map fun (lines, rest) => (lineText line :: lines, rest)
termination_by bs.length
decreasing_by exact length_of_splitLine ‹_›

theorem length_of_splitHead {bs rest : List UInt8} {lines : List String}
    (h : splitHead bs = some (lines, rest)) : rest.length < bs.length := by
  fun_induction splitHead bs generalizing lines with
  | case1 => simp at h
  | case2 bs behind hl =>
    obtain ⟨rfl, rfl⟩ := Prod.mk.inj (Option.some.inj h)
    exact length_of_splitLine hl
  | case3 bs line behind _ hl ih =>
    obtain ⟨p, hp, he⟩ := Option.map_eq_some_iff.1 h
    obtain ⟨rfl, rfl⟩ := Prod.mk.inj he
    exact Nat.lt_trans (ih hp) (length_of_splitLine hl)

/-- The number that a text is in a base of up to sixteen, if it is one of 64
bits. -/
def number? (base : Nat) (text : String) : Option Nat :=
  match SocketAddress.Reader.number base UInt64.size text.toList with
  | some (n, []) => some n
  | _ => none

/-- The value of the first field with a name, in any case of letters. -/
def field? (name : String) (fields : List String) : Option String :=
  fields.findSome? fun field =>
    match field.splitOn ":" with
    | found :: value =>
      if Text.sameIgnoringCase found name then some (Text.trim (":".intercalate value)) else none
    | [] => none

/-- The status that the first line of a reply gives. -/
def status? (first : String) : Option Nat :=
  match first.splitOn " " with
  | version :: status :: _ => if version.startsWith "HTTP/" then number? 10 status else none
  | _ => none

/-- How the end of a body is found. -/
inductive Framing where
  | length (n : Nat)
  | chunks
  | untilClose

/-- The framing that a head announces. A length that is no number announces
none. -/
def framing? (status : Nat) (fields : List String) : Option Framing :=
  if hasNoBody status then some (.length 0)
  else if (field? "transfer-encoding" fields).any (Text.sameIgnoringCase · "chunked") then
    some .chunks
  else
    match field? "content-length" fields with
    | some text => (number? 10 text).map .length
    | none => some .untilClose

/-- What the bytes of a body amount to. -/
inductive Body where
  | whole (bytes : List UInt8)
  /-- The body may go on. -/
  | unfinished
  /-- The bytes are none of a body. -/
  | malformed

/-- A body with bytes put in front. -/
def Body.after (front : List UInt8) : Body → Body
  | .whole bytes => .whole (front ++ bytes)
  | .unfinished => .unfinished
  | .malformed => .malformed

/-- The length that the line above a chunk gives; what stands behind a semicolon
is ignored. -/
def chunkLength? (line : List UInt8) : Option Nat :=
  ((lineText line).splitOn ";").head?.bind fun text => number? 16 (Text.trim text)

/-- The body that chunks make up. A chunk of length zero is the last one, and
fields may follow it. -/
def chunkedBody (bs : List UInt8) : Body :=
  match _ : splitLine bs with
  | none => .unfinished
  | some (line, rest) =>
    match chunkLength? line with
    | none => .malformed
    | some 0 => if (splitHead rest).isSome then .whole [] else .unfinished
    | some n =>
      match _ : splitLine (rest.drop n) with
      | none => .unfinished
      | some ([], behind) => (chunkedBody behind).after (rest.take n)
      | some _ => .malformed
termination_by bs.length
decreasing_by
  have := length_of_splitLine ‹splitLine bs = _›
  have := length_of_splitLine ‹splitLine (rest.drop n) = _›
  simp only [List.length_drop] at this
  omega

/-- The body behind a head. -/
def Framing.body (closed : Bool) (bs : List UInt8) : Framing → Body
  | .length n => if n ≤ bs.length then .whole (bs.take n) else .unfinished
  | .chunks => chunkedBody bs
  | .untilClose => if closed then .whole bs else .unfinished

/-- The reply that the bytes received so far are; `closed` says that no more will
come. Interim replies are passed over. -/
def reply? (closed : Bool) (bs : List UInt8) : Option PeerReply :=
  match _ : splitHead bs with
  | none => if closed then some .closed else none
  | some ([], _) => some .closed
  | some (first :: fields, rest) =>
    match status? first with
    | none => some .closed
    | some status =>
      if isInterim status then reply? closed rest
      else
        match framing? status fields with
        | none => some .closed
        | some framing =>
          match framing.body closed rest with
          | .whole body => some (.answer status body)
          | .malformed => some .truncated
          | .unfinished => if closed then some .truncated else none
termination_by bs.length
decreasing_by exact length_of_splitHead ‹_›

/-- The method and the target of a request, once its head has come. A head that
cannot be read asks for nothing. -/
def request? (closed : Bool) (bs : List UInt8) : Option (Option (String × String)) :=
  match splitHead bs with
  | none => if closed then some none else none
  | some (lines, _) =>
    match lines.head?.map (·.splitOn " ") with
    | some [method, target, _] => some (some (method, target))
    | _ => some none

end Wire

end Http

end ExecutionLink
