/-
The shortest decimal that reads back as a given binary number.

Every real nearer to a number than to its neighbours reads back as that number,
and so do the two midpoints when the mantissa is even.  The shortest decimal is
taken from the coarsest decimal grid that has a point in this interval; of two
such points the nearer one is taken, and a tie goes to the even one.  Only the
two grid points next to the number need to be looked at, because any other
point of the grid is farther away on the same side.
-/
import ExecutionLink.Number.Binary64

namespace ExecutionLink

/-- The number `digits · 10 ^ exponent`. -/
structure Decimal where
  digits : Nat
  exponent : Int
  deriving Repr, DecidableEq

namespace Binary64

/-- The interval that reads back as a number, in units of a quarter of its last
place: its two ends, and whether the ends belong to it.  Below a power of two the
next number is only half as far away. -/
def interval (x : Binary64) : Nat × Nat × Bool :=
  let gap := if x.mantissa = Nat.pow 2 52 ∧ leastExponent < x.exponent then 1 else 2
  (4 * x.mantissa - gap, 4 * x.mantissa + 2, x.mantissa % 2 = 0)

/-- A point of the grid of multiples of `10 ^ p` inside the interval of `x`, if
the grid has one: the nearer of the two next to `x`. -/
def onGrid? (x : Binary64) (p : Int) : Option Nat :=
  let e := x.exponent - 2
  -- `unit` and `step` are a quarter of the last place and the grid's width,
  -- brought to a common denominator.
  let unit := Nat.pow 2 e.toNat * Nat.pow 10 (-p).toNat
  let step := Nat.pow 10 p.toNat * Nat.pow 2 (-e).toNat
  let value := 4 * x.mantissa * unit
  let (low, high, closed) := x.interval
  let inside (k : Nat) : Bool :=
    if closed then low * unit ≤ k * step && k * step ≤ high * unit
    else low * unit < k * step && k * step < high * unit
  let k := value / step
  let down := value - k * step
  let up := (k + 1) * step - value
  if inside k && inside (k + 1) then
    some (if down < up then k else if up < down then k + 1 else k + k % 2)
  else if inside k then some k
  else if inside (k + 1) then some (k + 1)
  else none

/-- The shortest decimal that reads back as a number that is not zero, searched
from grids of width `10 ^ 308` down. -/
def shortest (x : Binary64) : Decimal :=
  ((List.range 640).findSome? fun (i : Nat) =>
    let p : Int := 308 - i
    (x.onGrid? p).map fun k => Decimal.mk k p).getD ⟨0, 0⟩

end Binary64

end ExecutionLink
