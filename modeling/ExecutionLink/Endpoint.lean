/-
Endpoints and what they connect to.

An endpoint is given as text.  No text, a blank one and the stub marker (in any
case of letters) select the built-in stub; any other text is meant as the URL of
a live peer.  White space around an endpoint has no meaning.
-/
import ExecutionLink.Text.Blank

namespace ExecutionLink

/-- Whether an endpoint is served by the built-in stub or by a live peer. -/
inductive EndpointMode where
  | stub
  | live
  deriving Repr, DecidableEq

namespace EndpointMode

/-- The mode's name. -/
def name : EndpointMode → String
  | .stub => "stub"
  | .live => "live"

/-- The text that selects the stub. -/
def stubMarker : String := "stub"

/-- The mode that an endpoint selects. -/
def ofEndpoint (endpoint : Option String) : EndpointMode :=
  match endpoint with
  | none => .stub
  | some text =>
    let text := Text.trim text
    if text = "" then .stub
    else if Text.sameIgnoringCase text stubMarker then .stub
    else .live

end EndpointMode

end ExecutionLink
