/-
From bytes to text, where bytes that are no text turn into U+FFFD.

`Utf8.decode` replaces each maximal ill-formed run (a lead byte together with
the continuation bytes that could still follow it) by one replacement
character.  `Utf16.decode` does the same for unpaired surrogates and for a unit
cut off at the end.  `decodeMarked` looks at a byte order mark first: it is
removed and decides between the three encodings, and without one the bytes are
UTF-8.
-/

namespace ExecutionLink.Text

/-- What stands for bytes that are no text. -/
def replacement : Char := '\uFFFD'

/-- The UTF-8 bytes of a text. -/
def utf8 (s : String) : List UInt8 :=
  s.toList.flatMap String.utf8EncodeChar

namespace Utf8

/-- A sequence begun by a lead byte: what it has contributed so far, how many
bytes are still missing, and the range the next of them must lie in. -/
structure Pending where
  value : Nat
  missing : Nat
  low : Nat
  high : Nat

/-- What a byte means when no sequence is open. -/
inductive Start where
  | char (c : Char)
  | lead (p : Pending)
  | stray

/-- The lead bytes, with the narrower range of the second byte where a wider
one would let in overlong forms, surrogates or values beyond U+10FFFF. -/
def start (b : UInt8) : Start :=
  let n := b.toNat
  if n < 0x80 then .char (Char.ofNat n)
  else if n < 0xC2 then .stray
  else if n < 0xE0 then .lead ⟨n - 0xC0, 1, 0x80, 0xBF⟩
  else if n = 0xE0 then .lead ⟨0, 2, 0xA0, 0xBF⟩
  else if n = 0xED then .lead ⟨0xD, 2, 0x80, 0x9F⟩
  else if n < 0xF0 then .lead ⟨n - 0xE0, 2, 0x80, 0xBF⟩
  else if n = 0xF0 then .lead ⟨0, 3, 0x90, 0xBF⟩
  else if n < 0xF4 then .lead ⟨n - 0xF0, 3, 0x80, 0xBF⟩
  else if n = 0xF4 then .lead ⟨4, 3, 0x80, 0x8F⟩
  else .stray

/-- What a continuation byte makes of an open sequence; `none` if it is none. -/
def Pending.accept (p : Pending) (b : UInt8) : Option (Char ⊕ Pending) :=
  if p.low ≤ b.toNat ∧ b.toNat ≤ p.high then
    let value := 64 * p.value + (b.toNat - 0x80)
    if p.missing ≤ 1 then some (.inl (Char.ofNat value))
    else some (.inr ⟨value, p.missing - 1, 0x80, 0xBF⟩)
  else none

/-- Decodes the rest of the bytes with a sequence possibly open. -/
def decodeFrom : Option Pending → List UInt8 → List Char
  | none, [] => []
  | some _, [] => [replacement]
  | open?, b :: bs =>
    match open?.bind (·.accept b) with
    | some (.inl c) => c :: decodeFrom none bs
    | some (.inr p) => decodeFrom (some p) bs
    | none =>
      (if open?.isSome then [replacement] else []) ++
        match start b with
        | .char c => c :: decodeFrom none bs
        | .lead p => decodeFrom (some p) bs
        | .stray => replacement :: decodeFrom none bs

/-- Bytes as UTF-8, ill-formed parts replaced. -/
def decode (bs : List UInt8) : List Char :=
  decodeFrom none bs

end Utf8

namespace Utf16

/-- The 16-bit units of a byte list, and whether a single byte is left over. -/
def units (bigEndian : Bool) : List UInt8 → List Nat × Bool
  | [] => ([], false)
  | [_] => ([], true)
  | a :: b :: bs =>
    let (us, cut) := units bigEndian bs
    ((if bigEndian then 256 * a.toNat + b.toNat else 256 * b.toNat + a.toNat) :: us, cut)

/-- The first unit of a pair. -/
def isHigh (u : Nat) : Bool := 0xD800 ≤ u && u ≤ 0xDBFF

/-- The second unit of a pair. -/
def isLow (u : Nat) : Bool := 0xDC00 ≤ u && u ≤ 0xDFFF

/-- The character a pair of units stands for. -/
def pair (high low : Nat) : Char :=
  Char.ofNat (0x10000 + 1024 * (high - 0xD800) + (low - 0xDC00))

/-- The characters of a list of units; `cut` says that half a unit follows. A
high unit directly before the cut is one ill-formed run with it. -/
def decodeUnits (cut : Bool) : List Nat → List Char
  | [] => if cut then [replacement] else []
  | [u] =>
    if isHigh u then [replacement]
    else (if isLow u then replacement else Char.ofNat u) :: (if cut then [replacement] else [])
  | u :: v :: us =>
    if isHigh u && isLow v then pair u v :: decodeUnits cut us
    else (if isHigh u || isLow u then replacement else Char.ofNat u) :: decodeUnits cut (v :: us)

/-- Bytes as UTF-16, ill-formed parts replaced. -/
def decode (bigEndian : Bool) (bs : List UInt8) : List Char :=
  let (us, cut) := units bigEndian bs
  decodeUnits cut us

end Utf16

/-- The text of bytes that may begin with a byte order mark. -/
def decodeMarked : List UInt8 → String
  | 0xEF :: 0xBB :: 0xBF :: bs => String.ofList (Utf8.decode bs)
  | 0xFE :: 0xFF :: bs => String.ofList (Utf16.decode true bs)
  | 0xFF :: 0xFE :: bs => String.ofList (Utf16.decode false bs)
  | bs => String.ofList (Utf8.decode bs)

/-- The text that bytes are the UTF-8 form of, if they are one. -/
def ofUtf8? (bs : List UInt8) : Option String :=
  String.fromUTF8? ⟨bs.toArray⟩

end ExecutionLink.Text
