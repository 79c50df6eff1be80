/-
Latency histograms of calls, one for each method and outcome.

A matrix has a row for each series of samples that was seen, and a row has a
counter for each bucket.  Recording a sample takes three steps: the row of the
series is looked up, made if there is none, and one of its counters grows.  The
steps are functions of their own (`row?`, `makeRow`, `increment`), because
several threads may record at once and their steps may come in any order.  As
making a row keeps one that exists, `record` goes without the look.
-/
import ExecutionLink.Error
import ExecutionLink.Metrics.CounterFamily
import ExecutionLink.Metrics.Interval
import ExecutionLink.Metrics.Outcome

namespace ExecutionLink

/-- The samples that are counted together: those of one method with one
outcome. -/
structure Series where
  method : String
  outcome : Outcome
  deriving Repr, DecidableEq

namespace Series

/-- Successes come before errors. -/
def rank : Outcome → Nat
  | .success => 0
  | .error => 1

/-- Series are in the order of their methods and then of their outcomes. -/
instance : LT Series where
  lt a b := a.method < b.method ∨ (a.method = b.method ∧ rank a.outcome < rank b.outcome)

instance : DecidableLT Series := fun a b =>
  inferInstanceAs
    (Decidable (a.method < b.method ∨ (a.method = b.method ∧ rank a.outcome < rank b.outcome)))

end Series

/-- A completed call that is counted; the duration is in milliseconds. -/
structure Sample where
  series : Series
  duration : UInt64
  deriving Repr, DecidableEq

/-- The labels under which a row's counters are kept. -/
abbrev Row := List Labels

/-- Histograms over the same buckets. -/
structure CounterMatrix where
  name : String
  help : String
  bounds : Bounds
  rows : Table Series Row := .empty
  family : CounterFamily := .empty
  deriving DecidableEq

/-! ### Names -/

/-- The characters that a metric name may start with. -/
def isMetricNameStart (c : Char) : Bool :=
  c.isAlpha || c = '_' || c = ':'

/-- Whether a text is the name of a metric. -/
def isMetricName (s : String) : Bool :=
  match s.toList with
  | [] => false
  | c :: cs => isMetricNameStart c && cs.all fun c => isMetricNameStart c || c.isDigit

namespace CounterMatrix

/-! ### Setting up -/

/-- A matrix that has seen nothing. It needs a help text and a proper name. -/
def new (name help : String) (bounds : List UInt64) : Except MetricsError CounterMatrix :=
  if help = "" then .error (.other "empty help string")
  else if isMetricName name then .ok { name, help, bounds := .ofList bounds }
  else .error (.other s!"'{name}' is not a valid metric name")

/-- The intervals of the buckets. -/
def intervals (m : CounterMatrix) : List Interval := m.bounds.intervals

/-- The number of buckets. -/
def bucketCount (m : CounterMatrix) : Nat := m.intervals.length

/-- The matrix in words. -/
def describe (m : CounterMatrix) : String :=
  let bounds := ", ".intercalate (m.bounds.values.map Text.Natural.render)
  "CounterMatrix \x7b thresholds: [" ++ bounds ++ "] \x7d"

/-! ### Recording -/

/-- The row of a series, if the series was seen. -/
def row? (m : CounterMatrix) (s : Series) : Option Row := m.rows.find? s

/-- The labels of a series' counters, bucket by bucket. -/
def labels (m : CounterMatrix) (s : Series) : Row :=
  m.intervals.map fun i => ⟨i.label, s.method, s.outcome.label⟩

/-- The row of a series and the matrix that has it. A row that exists is kept as
it is. -/
def makeRow (m : CounterMatrix) (s : Series) : Row × CounterMatrix :=
  match m.row? s with
  | some row => (row, m)
  | none =>
    let row := m.labels s
    (row, { m with
      rows := m.rows.ensure s row
      family := row.foldl .withCounter m.family })

/-- Counts one more in the bucket of a row that a duration falls into. -/
def increment (m : CounterMatrix) (row : Row) (duration : UInt64) : CounterMatrix :=
  match row[bucketIndex m.bounds.values duration]? with
  | some labels => { m with family := m.family.increment labels }
  | none => m

/-- Counts a sample. -/
def record (m : CounterMatrix) (s : Sample) : CounterMatrix :=
  let (row, m) := m.makeRow s.series
  m.increment row s.duration

/-- Counting changes no name. -/
@[simp] theorem name_record (m : CounterMatrix) (s : Sample) : (m.record s).name = m.name := by
  have hmakeRow : (m.makeRow s.series).2.name = m.name := by
    unfold makeRow
    split <;> rfl
  have hincrement (n : CounterMatrix) (row : Row) : (n.increment row s.duration).name = n.name := by
    unfold increment
    split <;> rfl
  exact (hincrement _ _).trans hmakeRow

/-! ### Reading -/

/-- The counts of a row, bucket by bucket. -/
def counts (m : CounterMatrix) (row : Row) : List UInt64 :=
  row.map m.family.value

/-- How many samples of a series fell into a bucket. -/
def count (m : CounterMatrix) (s : Series) (bucket : Nat) : UInt64 :=
  ((m.row? s).bind fun row => (m.counts row)[bucket]?).getD 0

/-- How many samples of a series there were. -/
def total (m : CounterMatrix) (s : Series) : UInt64 :=
  ((m.row? s).map fun row => (m.counts row).foldr (· + ·) 0).getD 0

/-- The counts of every series that was seen, in order. -/
def snapshot (m : CounterMatrix) : List (Series × List UInt64) :=
  m.rows.entries.map fun (s, row) => (s, m.counts row)

end CounterMatrix

end ExecutionLink
