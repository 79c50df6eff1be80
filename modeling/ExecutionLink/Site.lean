/-
What services share: the site on which they run.
-/
import ExecutionLink.Clock
import ExecutionLink.Log
import ExecutionLink.Metrics.Registry
import ExecutionLink.Text.Quoted

namespace ExecutionLink

/-- A site: where data is kept, the clock, the metrics and the events that were
logged so far. -/
structure Site where
  dataDirectory : String
  clock : Clock
  metrics : MetricsRegistry := .empty
  log : List LogEvent := []

namespace Site

/-- Logs events. -/
def tell (s : Site) (events : List LogEvent) : Site :=
  { s with log := s.log ++ events }

/-- The events meant for the operator. -/
def operatorEvents (s : Site) : List LogEvent :=
  s.log.filter (·.topic = .operator)

/-- Counts a sample in the counters of a name. -/
def recordIn (name : String) (s : Site) (sample : Sample) : Site :=
  { s with metrics := s.metrics.recordIn name sample }

/-- The site in words. -/
def describe (s : Site) : String :=
  "ServiceConfig \x7b data_dir: " ++ Text.quoteText s.dataDirectory ++ ", .. \x7d"

end Site

end ExecutionLink
