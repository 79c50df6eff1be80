/-
Wall clocks in milliseconds since the epoch.

A reading is an unsigned 64-bit number.  Clocks may be set to any reading and
moved on; moving past the last reading starts again at zero.
-/

namespace ExecutionLink

/-- A clock, given by its reading in milliseconds. -/
structure Clock where
  millis : UInt64
  deriving Repr, DecidableEq

namespace Clock

/-- The reading in whole seconds. -/
def seconds (c : Clock) : UInt64 :=
  c.millis / 1000

/-- A clock that shows the given second, or the last reading there is if that
second is beyond it. -/
def ofSeconds (s : UInt64) : Clock :=
  ⟨UInt64.ofNat (min (1000 * s.toNat) (UInt64.size - 1))⟩

/-- Moves the clock on, wrapping at 64 bits. -/
def advance (c : Clock) (millis : UInt64) : Clock :=
  ⟨c.millis + millis⟩

/-- The milliseconds from one reading to another, none if the clock went back. -/
def elapsed (start finish : UInt64) : UInt64 :=
  if start ≤ finish then finish - start else 0

/-- A change made to a clock: it is moved on and then possibly set. -/
structure Change where
  advance : Option UInt64
  set : Option UInt64

/-- Applies a change. -/
def change (c : Clock) (d : Change) : Clock :=
  let moved := match d.advance with
    | some millis => c.advance millis
    | none => c
  match d.set with
  | some millis => ⟨millis⟩
  | none => moved

end Clock

end ExecutionLink
