/-
What a number literal means, and how numbers are written.

An integer literal without fraction and exponent is kept exactly if it fits in
64 bits, unsigned or signed; every other literal is a binary floating-point
number.  Such a literal is read with 64 bits of digits: the digits that fit are
collected, further digits before the point only scale, further digits behind
the point are dropped, and the power of ten that remains is applied by a single
multiplication or division.  A literal too large for a finite number has no
meaning.
-/
import ExecutionLink.Json.Literal
import ExecutionLink.Number.Shortest

namespace ExecutionLink.Json

/-- The value of a number literal: an unsigned 64-bit integer, minus a magnitude
of at most `2 ^ 63`, or a floating-point number with its sign. -/
inductive Number where
  | natural (n : UInt64)
  | negative (magnitude : Nat)
  | real (minus : Bool) (x : Binary64)
  deriving Repr, DecidableEq

namespace Number

/-- Collects digits behind those that made up `value`, as long as the result
fits in 64 bits; gives the digits that are left over, too. -/
def collect (value : Nat) : List Nat → Nat × List Nat
  | [] => (value, [])
  | d :: ds =>
    if 10 * value + d < UInt64.size then collect (10 * value + d) ds else (value, d :: ds)

/-- The power of ten, as the nearest number. -/
def powerOfTen (k : Nat) : Binary64 :=
  (Binary64.nearest? (Nat.pow 10 k) 1).getD .zero

/-- Divides by a power of ten, in steps if it is beyond the largest number. -/
def scaleDown (x : Binary64) (k : Nat) : Option Binary64 :=
  if k ≤ 308 then x.div? (powerOfTen k)
  else if x.mantissa = 0 then some x
  else (x.div? (powerOfTen 308)).bind fun y => scaleDown y (k - 308)
termination_by k

/-- The number `significand · 10 ^ exponent`, unless it is too large. -/
def scale? (significand : Nat) (exponent : Int) : Option Binary64 := do
  let x ← Binary64.nearest? significand 1
  if exponent < 0 then scaleDown x (-exponent).toNat
  else if exponent ≤ 308 then x.mul? (powerOfTen exponent.toNat)
  else if significand = 0 then some x
  else none

/-- The number that digits stand for. -/
def ofDigits (ds : List Nat) : Nat :=
  ds.foldl (fun value d => 10 * value + d) 0

/-- The meaning of a literal as a floating-point number. -/
def real? (n : NumberLiteral) : Option Number :=
  let (whole, spill) := collect 0 n.whole
  let fraction := n.fraction.getD []
  let (significand, dropped) := collect whole fraction
  let exponent : Int := match n.exponent with
    | none => 0
    | some (true, ds) => -(ofDigits ds : Int)
    | some (false, ds) => ofDigits ds
  let shift : Int := spill.length - (fraction.length - dropped.length : Nat)
  (scale? significand (exponent + shift)).map (.real n.negative)

/-- The meaning of a literal; `none` if it is too large for a finite number. -/
def ofLiteral? (n : NumberLiteral) : Option Number :=
  if n.fraction.isNone && n.exponent.isNone then
    let value := ofDigits n.whole
    if n.negative then
      if 0 < value ∧ value ≤ Nat.pow 2 63 then some (.negative value) else real? n
    else if value < UInt64.size then some (.natural (UInt64.ofNat value))
    else real? n
  else real? n

/-! ### Writing -/

/-- Decimal digits of a natural number. -/
def naturalText (n : Nat) : List Char :=
  Nat.toDigits 10 n

/-- A decimal in the shorter of two shapes: positional, with at least one digit
on each side of the point, if its first digit stands for a power of ten from
`10 ^ -5` to `10 ^ 15`, and otherwise one digit, the others behind a point, and
a signed exponent. -/
def decimalText (d : Decimal) : List Char :=
  let ds := naturalText d.digits
  let leading : Int := d.exponent + ds.length - 1
  if leading < -5 ∨ 15 < leading then
    let rest := ds.drop 1
    ds.take 1 ++ (if rest.isEmpty then [] else '.' :: rest) ++
      ['e', if leading < 0 then '-' else '+'] ++ naturalText leading.natAbs
  else if leading < 0 then
    ['0', '.'] ++ List.replicate (leading.natAbs - 1) '0' ++ ds
  else
    let width := leading.toNat + 1
    if ds.length ≤ width then ds ++ List.replicate (width - ds.length) '0' ++ ['.', '0']
    else ds.take width ++ '.' :: ds.drop width

/-- A floating-point number: the shortest decimal that reads back. -/
def realText (x : Binary64) : List Char :=
  if x.mantissa = 0 then ['0', '.', '0'] else decimalText x.shortest

/-- The written form of a number. -/
def chars : Number → List Char
  | .natural n => naturalText n.toNat
  | .negative m => '-' :: naturalText m
  | .real minus x => (if minus then ['-'] else []) ++ realText x

/-- The written form of a number. -/
def render (n : Number) : String :=
  String.ofList n.chars

end Number

end ExecutionLink.Json
