/-
Byte strings of a fixed length, the addresses, roots, keys and signatures of
the payloads.

They are written as `0x` followed by lower-case hexadecimal digits
(`FixedBytes.hex`).  `FixedBytes.parse` reads digits of either case, with or
without the marker; `FixedBytes.padded` makes a value of any list of bytes by
filling up with zeros on the right or dropping what is too much.
-/
import ExecutionLink.Bytes.Hex
import ExecutionLink.Text.Quoted

namespace ExecutionLink

/-- Exactly `n` bytes. -/
structure FixedBytes (n : Nat) where
  bytes : List UInt8
  length_bytes : bytes.length = n
  deriving DecidableEq

/-- A hash or root. -/
abbrev Bytes32 := FixedBytes 32

/-- The address that receives fees. -/
abbrev Address := FixedBytes 20

/-- A validator's or builder's public key. -/
abbrev PublicKey := FixedBytes 48

/-- A signature. -/
abbrev Signature := FixedBytes 96

namespace FixedBytes

variable {n : Nat}

@[ext] theorem ext {a b : FixedBytes n} (h : a.bytes = b.bytes) : a = b := by
  cases a; cases b; simp_all

/-- All bytes zero. -/
def zero (n : Nat) : FixedBytes n :=
  ⟨List.replicate n 0, List.length_replicate⟩

/-- The first `n` bytes of the list, filled up with zeros. -/
def padded (n : Nat) (bs : List UInt8) : FixedBytes n :=
  ⟨bs.take n ++ List.replicate (n - bs.length) 0, by
    simp only [List.length_append, List.length_take, List.length_replicate]; omega⟩

/-- Whether all bytes are zero. -/
def isZero (b : FixedBytes n) : Bool :=
  b.bytes.all (· = 0)

/-- The characters of the written form. -/
def hexChars (b : FixedBytes n) : List Char :=
  '0' :: 'x' :: Hex.encode b.bytes

/-- The written form: the marker and two lower-case digits for each byte. -/
def hex (b : FixedBytes n) : String :=
  String.ofList b.hexChars

/-- Why a text is no value of the wanted length. -/
inductive ParseFault where
  | oddLength (text : String)
  | invalidDigit (text : String) (byte : UInt8) (position : Nat)
  | wrongLength (expected actual : Nat)
  deriving Repr, DecidableEq

/-- The wording of a fault: the whole text is shown, and the byte that is no
digit as the character of the same number. -/
def ParseFault.message : ParseFault → String
  | .oddLength text => s!"invalid hex '{text}': Odd number of digits"
  | .invalidDigit text byte position =>
    let shown := Text.quoteChar (Char.ofNat byte.toNat)
    s!"invalid hex '{text}': Invalid character {shown} at position {position}"
  | .wrongLength expected actual => s!"expected {expected} bytes, got {actual}"

/-- The text behind the marker, if there is one. -/
def unmarked : List Char → List Char
  | '0' :: 'x' :: cs => cs
  | cs => cs

/-- The bytes a list of digits stands for, of whatever number. -/
def parseBytes (text : String) : Except ParseFault (List UInt8) :=
  match Hex.decode ((unmarked text.toList).flatMap String.utf8EncodeChar) with
  | .ok bs => .ok bs
  | .error .oddLength => .error (.oddLength text)
  | .error (.invalidDigit byte position) => .error (.invalidDigit text byte position)

/-- Reads `n` bytes. -/
def parse (n : Nat) (text : String) : Except ParseFault (FixedBytes n) := do
  let bs ← parseBytes text
  if h : bs.length = n then return ⟨bs, h⟩ else throw (.wrongLength n bs.length)

end FixedBytes

end ExecutionLink
