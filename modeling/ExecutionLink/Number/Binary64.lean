/-
Binary floating-point numbers with 53 significant bits, over exact naturals.

A finite magnitude is a pair of a mantissa and an exponent of two.  `nearest?`
gives the number nearest to a quotient of naturals, a tie going to the even
mantissa, and nothing if that lies beyond the largest finite number.  Products
and quotients are rounded once, from their exact value.
-/

namespace ExecutionLink

/-- The magnitude `mantissa · 2 ^ exponent`.  Those made below have a mantissa
under `2 ^ 53`, and at least `2 ^ 52` unless the exponent is the least one. -/
structure Binary64 where
  mantissa : Nat
  exponent : Int
  deriving Repr, DecidableEq

namespace Binary64

/-- The exponent of the smallest step between two numbers. -/
def leastExponent : Int := -1074

/-- The exponent of the largest step between two numbers. -/
def greatestExponent : Int := 971

/-- The number zero. -/
def zero : Binary64 := ⟨0, leastExponent⟩

/-- `num / den · 2 ^ (-e)` as a quotient of naturals. -/
def scaled (num den : Nat) (e : Int) : Nat × Nat :=
  if 0 ≤ e then (num, den * Nat.pow 2 e.toNat) else (num * Nat.pow 2 (-e).toNat, den)

/-- The whole number nearest to a quotient, a tie going to the even one. -/
def roundQuotient (num den : Nat) : Nat :=
  let whole := num / den
  let twice := 2 * (num % den)
  if twice < den then whole
  else if den < twice then whole + 1
  else whole + whole % 2

/-- The exponent at which the quotient has a mantissa of 53 bits. -/
def exponentFor (num den : Nat) : Int :=
  let e : Int := (num.log2 : Int) - den.log2 - 52
  let (n, d) := scaled num den e
  max leastExponent (if n < Nat.pow 2 52 * d then e - 1 else e)

/-- The number nearest to `num / den`, unless it is too large. -/
def nearest? (num den : Nat) : Option Binary64 :=
  if num = 0 then some zero
  else
    let e := exponentFor num den
    let (n, d) := scaled num den e
    let m := roundQuotient n d
    let x : Binary64 := if m = Nat.pow 2 53 then ⟨Nat.pow 2 52, e + 1⟩ else ⟨m, e⟩
    if x.exponent ≤ greatestExponent then some x else none

/-- The value as a quotient of naturals. -/
def quotient (x : Binary64) : Nat × Nat :=
  if 0 ≤ x.exponent then (x.mantissa * Nat.pow 2 x.exponent.toNat, 1)
  else (x.mantissa, Nat.pow 2 (-x.exponent).toNat)

/-- The product, rounded, unless it is too large. -/
def mul? (x y : Binary64) : Option Binary64 :=
  let (a, b) := x.quotient
  let (c, d) := y.quotient
  nearest? (a * c) (b * d)

/-- The quotient, rounded, unless it is too large. -/
def div? (x y : Binary64) : Option Binary64 :=
  let (a, b) := x.quotient
  let (c, d) := y.quotient
  nearest? (a * d) (b * c)

end Binary64

end ExecutionLink
