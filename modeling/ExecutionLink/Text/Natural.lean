/-
Unsigned 64-bit numbers in decimal digits.

`Natural.read?` takes one optional plus sign and then digits only; leading
zeros are allowed.  It reads from the left and stops at the first thing that
is wrong, so a number that has grown past 64 bits is reported as too large even
if a later character is no digit.  `Natural.render` writes the digits without
leading zeros.
-/

namespace ExecutionLink.Text.Natural

/-- Why a text is no unsigned 64-bit number. -/
inductive Fault where
  | empty
  | invalidDigit
  | tooLarge
  deriving Repr, DecidableEq

/-- The wording of a fault. -/
def Fault.message : Fault → String
  | .empty => "cannot parse integer from empty string"
  | .invalidDigit => "invalid digit found in string"
  | .tooLarge => "number too large to fit in target type"

/-- The value of an ASCII digit. -/
def digit? (c : Char) : Option Nat :=
  if c.isDigit then some (c.toNat - '0'.toNat) else none

/-- The digits `cs` read after the digits that made up `value`. -/
def readFrom (value : Nat) : List Char → Except Fault Nat
  | [] => .ok value
  | c :: cs =>
    match digit? c with
    | none => .error .invalidDigit
    | some d =>
      if 10 * value + d < UInt64.size then readFrom (10 * value + d) cs else .error .tooLarge

/-- An optional plus sign followed by at least one digit. -/
def readChars : List Char → Except Fault Nat
  | [] => .error .empty
  | ['+'] => .error .invalidDigit
  | '+' :: cs => readFrom 0 cs
  | cs => readFrom 0 cs

/-- The number a text stands for. -/
def read (s : String) : Except Fault UInt64 :=
  (readChars s.toList).map UInt64.ofNat

/-- The decimal digits of a number, without leading zeros. -/
def render (n : UInt64) : String :=
  toString n.toNat

end ExecutionLink.Text.Natural
