/-
The page on which the metrics are served.
-/
import ExecutionLink.Http
import ExecutionLink.Http.Target
import ExecutionLink.Metrics.Registry

namespace ExecutionLink

namespace MetricsPage

/-- The path of the page. -/
def path : String := "/metrics"

/-- The type of its content. -/
def contentType : String := "text/plain; version=0.0.4"

/-- The methods with which it can be asked for. -/
def allowed : List String := ["GET", "HEAD"]

/-- The reply to a request for a target. A request for the head alone gets the
page without its content. -/
def replyFor (r : MetricsRegistry) (method : String) (target : Http.RequestTarget) :
    Http.Reply :=
  if target.path? ≠ some path then { status := 404 }
  else if method ∈ allowed then
    { status := 200
      contentType := some contentType
      body := if method = "HEAD" then "" else r.render }
  else
    { status := 405
      allow := some (",".intercalate allowed) }

/-- The reply to a request. -/
def reply (r : MetricsRegistry) (method target : String) : Http.Reply :=
  match Http.RequestTarget.ofText? target with
  | some target => replyFor r method target
  | none => { status := 400 }

end MetricsPage

end ExecutionLink
