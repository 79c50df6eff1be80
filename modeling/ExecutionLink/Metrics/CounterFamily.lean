/-
Counters of one name that differ in their labels.

A family holds one counter for each combination of labels that was ever asked
for, in the order of the labels.  A counter starts at zero and only grows, by
one at a time, modulo two to the power of 64.
-/
import ExecutionLink.Table

namespace ExecutionLink

/-- The labels of one counter. -/
structure Labels where
  interval : String
  method : String
  outcome : String
  deriving Repr, DecidableEq

namespace Labels

/-- Labels are in the order of the interval, the method and the outcome, each
by its characters. -/
instance : LT Labels where
  lt a b := a.interval < b.interval ∨
    (a.interval = b.interval ∧
      (a.method < b.method ∨ (a.method = b.method ∧ a.outcome < b.outcome)))

instance : DecidableLT Labels := fun a b =>
  inferInstanceAs (Decidable (a.interval < b.interval ∨
    (a.interval = b.interval ∧
      (a.method < b.method ∨ (a.method = b.method ∧ a.outcome < b.outcome)))))

end Labels

/-- A family of counters. -/
structure CounterFamily where
  counters : Table Labels UInt64 := .empty
  deriving Repr, DecidableEq

namespace CounterFamily

/-- The family without counters. -/
def empty : CounterFamily := {}

/-- The family with a counter for the labels. -/
def withCounter (f : CounterFamily) (labels : Labels) : CounterFamily :=
  ⟨f.counters.ensure labels 0⟩

/-- The counter's value; one that was never asked for counts as zero. -/
def value (f : CounterFamily) (labels : Labels) : UInt64 :=
  (f.counters.find? labels).getD 0

/-- Counts one more under the labels. -/
def increment (f : CounterFamily) (labels : Labels) : CounterFamily :=
  ⟨f.counters.modify labels (· + 1)⟩

@[simp] theorem value_withCounter (f : CounterFamily) (a b : Labels) :
    (f.withCounter a).value b = f.value b := by
  simp only [value, withCounter, Table.find?_ensure]
  split
  · rename_i h
    simp [h]
  · rfl

/-- Only the counter under the labels grows, if there is one. -/
theorem value_increment (f : CounterFamily) (a b : Labels)
    (h : (f.counters.find? a).isSome) :
    (f.increment a).value b = if b = a then f.value b + 1 else f.value b := by
  simp only [value, increment, Table.find?_modify]
  obtain ⟨v, hv⟩ := Option.isSome_iff_exists.mp h
  split
  · rename_i hb
    simp [hb, hv]
  · rfl

end CounterFamily

end ExecutionLink
