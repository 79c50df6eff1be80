/-
Threads that record into one matrix.

Each thread works through its samples and takes one step of recording at a time
(see `CounterMatrix`); what it has found out so far is its `Phase`.  A schedule
says whose turn it is.  A thread whose turn comes when it has nothing left to do
lets it pass.
-/
import ExecutionLink.Metrics.CounterMatrix

namespace ExecutionLink

/-- How far a thread is with the first of its samples. -/
inductive Thread.Phase where
  | lookUp
  /-- There was no row when the thread looked. -/
  | makeRow
  /-- The thread has a row and is about to count. -/
  | increment (row : Row)
  deriving Repr, DecidableEq

/-- A recording thread. -/
structure Thread where
  samples : List Sample
  phase : Thread.Phase := .lookUp
  deriving Repr, DecidableEq

namespace Thread

/-- Whether a thread has recorded all its samples. -/
def isDone (t : Thread) : Bool := t.samples.isEmpty

/-- One step of a thread. -/
def step (m : CounterMatrix) (t : Thread) : CounterMatrix × Thread :=
  match t.samples with
  | [] => (m, t)
  | s :: rest =>
    match t.phase with
    | .lookUp =>
      match m.row? s.series with
      | some row => (m, { t with phase := .increment row })
      | none => (m, { t with phase := .makeRow })
    | .makeRow =>
      let (row, m) := m.makeRow s.series
      (m, { t with phase := .increment row })
    | .increment row => (m.increment row s.duration, ⟨rest, .lookUp⟩)

end Thread

/-- Threads at work on one matrix. -/
structure ThreadPool where
  matrix : CounterMatrix
  threads : List Thread
  deriving DecidableEq

namespace ThreadPool

/-- The thread with the given number takes a step. -/
def step (p : ThreadPool) (i : Nat) : ThreadPool :=
  match p.threads[i]? with
  | some t =>
    let (matrix, t) := t.step p.matrix
    ⟨matrix, p.threads.set i t⟩
  | none => p

/-- The threads take steps in the order of a schedule. -/
def run (p : ThreadPool) (schedule : List Nat) : ThreadPool :=
  schedule.foldl step p

/-- Whether all threads are done. -/
def isDone (p : ThreadPool) : Bool := p.threads.all (·.isDone)

/-- The schedule by which the threads take turns until each of them has had as
many turns as its samples can take. -/
def turns (p : ThreadPool) : List Nat :=
  let rounds := 3 * ((p.threads.map (·.samples.length)).foldl max 0)
  (List.replicate rounds (List.range p.threads.length)).flatten

/-- The threads take turns until all are done. -/
def finish (p : ThreadPool) : ThreadPool := p.run p.turns

end ThreadPool

end ExecutionLink
