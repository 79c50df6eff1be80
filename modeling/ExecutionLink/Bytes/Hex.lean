/-
Bytes as hexadecimal digits, two digits a byte, the high half first.

Writing uses lower case.  Reading takes either case and works on the UTF-8
bytes of a text: an odd number of bytes is reported first, and otherwise the
first byte that is no digit.
-/
import ExecutionLink.Text.Encoding

namespace ExecutionLink.Hex

/-- Why a text is no sequence of hexadecimal digit pairs. -/
inductive Fault where
  | oddLength
  /-- The byte at `position` is no digit. -/
  | invalidDigit (byte : UInt8) (position : Nat)
  deriving Repr, DecidableEq

/-- The digit for a number below sixteen. -/
def digit (n : Nat) : Char :=
  Char.ofNat (if n < 10 then '0'.toNat + n else 'a'.toNat + (n - 10))

/-- The two digits of a byte. -/
def digits (b : UInt8) : List Char :=
  [digit (b.toNat / 16), digit (b.toNat % 16)]

/-- The digits of a list of bytes. -/
def encode (bs : List UInt8) : List Char :=
  bs.flatMap digits

/-- The value of a byte that is an ASCII hexadecimal digit. -/
def value? (b : UInt8) : Option Nat :=
  let n := b.toNat
  if 0x30 ≤ n ∧ n ≤ 0x39 then some (n - 0x30)
  else if 0x41 ≤ n ∧ n ≤ 0x46 then some (n - 0x41 + 10)
  else if 0x61 ≤ n ∧ n ≤ 0x66 then some (n - 0x61 + 10)
  else none

/-- The value of the digit at `position`. -/
def valueAt (b : UInt8) (position : Nat) : Except Fault Nat :=
  match value? b with
  | some v => .ok v
  | none => .error (.invalidDigit b position)

/-- Reads an even number of digits, the first of which stands at `position`. -/
def decodePairs (position : Nat) : List UInt8 → Except Fault (List UInt8)
  | [] => .ok []
  | [_] => .error .oddLength
  | a :: b :: rest => do
    let high ← valueAt a position
    let low ← valueAt b (position + 1)
    let bytes ← decodePairs (position + 2) rest
    return UInt8.ofNat (16 * high + low) :: bytes

/-- The bytes that the digits `text` (as UTF-8) stand for. -/
def decode (text : List UInt8) : Except Fault (List UInt8) :=
  if text.length % 2 = 0 then decodePairs 0 text else .error .oddLength

end ExecutionLink.Hex
