/-
The metrics of a site.

The registry holds families of counters, each under its name.  One of them are
the counters of the requests made to the builder, once they are registered.
Clients record into a registered family, and readers see them all as text.
-/
import ExecutionLink.Metrics.CounterMatrix

namespace ExecutionLink

namespace CounterMatrix

/-- The name of the builder's counters. -/
def builderName : String := "beacon_builder_requests_total"

/-- The help text of the builder's counters. -/
def builderHelp : String :=
  "Counter recording the number of requests made to the builder by method, outcome and " ++
    "execution time interval"

/-- The bounds of the builder's buckets, in milliseconds. -/
def builderBounds : List UInt64 := [100, 300, 500, 1000, 2000, 3000, 5000]

/-- The builder's counters before any request. -/
def builderRequests : Except MetricsError CounterMatrix :=
  CounterMatrix.new builderName builderHelp builderBounds

end CounterMatrix

/-- The registered counters, each under its name. -/
structure MetricsRegistry where
  families : Table String CounterMatrix
  /-- Nothing is registered under a name that is taken. -/
  distinct : families.keys.Nodup
  named : ∀ e ∈ families.entries, e.2.name = e.1
  deriving DecidableEq

namespace MetricsRegistry

/-- The registry of a site that has just begun. -/
def empty : MetricsRegistry where
  families := .empty
  distinct := List.nodup_nil
  named := List.forall_mem_nil _

/-- The counters that are registered under a name. -/
def family? (r : MetricsRegistry) (name : String) : Option CounterMatrix := r.families.find? name

/-- The builder's counters, if they are registered. -/
def matrix (r : MetricsRegistry) : Option CounterMatrix := r.family? CounterMatrix.builderName

/-- All registered counters, in the order of their names. -/
def matrices (r : MetricsRegistry) : List CounterMatrix := r.families.entries.map (·.2)

/-- Registers counters under their name; it must not be taken. -/
def register (r : MetricsRegistry) (m : CounterMatrix) : Except MetricsError MetricsRegistry :=
  match r.family? m.name with
  | some _ => .error .alreadyRegistered
  | none => .ok
    { families := r.families.ensure m.name m
      distinct := Table.nodup_keys_ensure r.distinct m.name m
      named := Table.forall_mem_ensure r.named rfl }

/-- Registers the builder's counters. -/
def registerBuilder (r : MetricsRegistry) : Except MetricsError MetricsRegistry := do
  r.register (← CounterMatrix.builderRequests)

/-- Counts a sample in the counters of a name, if there are any. -/
def recordIn (name : String) (r : MetricsRegistry) (s : Sample) : MetricsRegistry where
  families := r.families.modify name (·.record s)
  distinct := by
    rw [Table.keys_modify]
    exact r.distinct
  named := Table.forall_mem_modify r.named name fun _ m h => (m.name_record s).trans h

/-- Counts a sample in the builder's counters. -/
def record : MetricsRegistry → Sample → MetricsRegistry := recordIn CounterMatrix.builderName

/-! ### Looking up after a change -/

theorem family?_register {r r' : MetricsRegistry} {m : CounterMatrix} (h : r.register m = .ok r')
    (name : String) : r'.family? name = if name = m.name then some m else r.family? name := by
  unfold register at h
  split at h
  · cases h
  · rename_i hnone
    cases h
    have hfree : r.families.find? m.name = none := hnone
    rw [family?, Table.find?_ensure, hfree]
    rfl

/-- Only the counters of the name grow. -/
theorem family?_recordIn (r : MetricsRegistry) (name other : String) (s : Sample) :
    (r.recordIn name s).family? other =
      if other = name then (r.family? name).map (·.record s) else r.family? other :=
  Table.find?_modify r.families name other _

end MetricsRegistry

/-! ### As text -/

namespace Exposition

/-- The form of one character of a help text or a label value. Only label values
stand in quotes. -/
def escape (quoted : Bool) (c : Char) : List Char :=
  if c = '\\' then ['\\', '\\']
  else if c = '\n' then ['\\', 'n']
  else if c = '"' && quoted then ['\\', '"']
  else [c]

/-- A help text. -/
def helpText (s : String) : String := String.ofList (s.toList.flatMap (escape false))

/-- A label with its value in quotes. -/
def labelText (name value : String) : String :=
  name ++ "=\"" ++ String.ofList (value.toList.flatMap (escape true)) ++ "\""

/-- The line of one counter, with its value written exactly. The encoder that writes the
text prints a floating-point number; up to 2 ^ 53 every count is such a number and is
printed as here, which is why nothing is said of texts with larger ones. -/
def sampleLine (name : String) (labels : Labels) (value : UInt64) : String :=
  let shown := ",".intercalate
    [labelText "interval" labels.interval, labelText "method" labels.method,
      labelText "outcome" labels.outcome]
  name ++ "\x7b" ++ shown ++ "\x7d " ++ Text.Natural.render value

/-- The lines of a family: what it is about, its type and its counters in the
order of their labels. A family without counters has no lines. -/
def lines (m : CounterMatrix) : List String :=
  match m.family.counters.entries with
  | [] => []
  | es =>
    s!"# HELP {m.name} {helpText m.help}" :: s!"# TYPE {m.name} counter" ::
      es.map fun (labels, value) => sampleLine m.name labels value

/-- The lines of a family, each with its end. -/
def text (m : CounterMatrix) : String :=
  String.join ((lines m).map (· ++ "\n"))

end Exposition

/-- The registered counters as text, one family after another. -/
def MetricsRegistry.render (r : MetricsRegistry) : String :=
  String.join (r.matrices.map Exposition.text)

end ExecutionLink
