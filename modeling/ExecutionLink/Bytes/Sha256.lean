/-
The hash function SHA-256 on lists of bytes.

A message is filled up to whole blocks of 64 bytes with a one bit, zeros and its
length in bits (`pad`), and the blocks are compressed one after another into a
state of eight words.
-/
import ExecutionLink.Bytes.BigEndian
import ExecutionLink.Bytes.Fixed

namespace ExecutionLink.Sha256

/-- The eight words of the state. -/
structure State where
  a : UInt32
  b : UInt32
  c : UInt32
  d : UInt32
  e : UInt32
  f : UInt32
  g : UInt32
  h : UInt32
  deriving Repr, DecidableEq

namespace State

/-- The state before the first block: the first bits of the fractions of the
square roots of the first eight primes. -/
def initial : State :=
  ⟨0x6a09e667, 0xbb67ae85, 0x3c6ef372, 0xa54ff53a, 0x510e527f, 0x9b05688c, 0x1f83d9ab, 0x5be0cd19⟩

/-- The sum word by word. -/
def add (s t : State) : State :=
  ⟨s.a + t.a, s.b + t.b, s.c + t.c, s.d + t.d, s.e + t.e, s.f + t.f, s.g + t.g, s.h + t.h⟩

/-- The words in order. -/
def words (s : State) : List UInt32 := [s.a, s.b, s.c, s.d, s.e, s.f, s.g, s.h]

end State

/-- The constants of the rounds: the first bits of the fractions of the cube
roots of the first 64 primes. -/
def roundConstants : List UInt32 :=
  [0x428a2f98, 0x71374491, 0xb5c0fbcf, 0xe9b5dba5, 0x3956c25b, 0x59f111f1, 0x923f82a4, 0xab1c5ed5,
   0xd807aa98, 0x12835b01, 0x243185be, 0x550c7dc3, 0x72be5d74, 0x80deb1fe, 0x9bdc06a7, 0xc19bf174,
   0xe49b69c1, 0xefbe4786, 0x0fc19dc6, 0x240ca1cc, 0x2de92c6f, 0x4a7484aa, 0x5cb0a9dc, 0x76f988da,
   0x983e5152, 0xa831c66d, 0xb00327c8, 0xbf597fc7, 0xc6e00bf3, 0xd5a79147, 0x06ca6351, 0x14292967,
   0x27b70a85, 0x2e1b2138, 0x4d2c6dfc, 0x53380d13, 0x650a7354, 0x766a0abb, 0x81c2c92e, 0x92722c85,
   0xa2bfe8a1, 0xa81a664b, 0xc24b8b70, 0xc76c51a3, 0xd192e819, 0xd6990624, 0xf40e3585, 0x106aa070,
   0x19a4c116, 0x1e376c08, 0x2748774c, 0x34b0bcb5, 0x391c0cb3, 0x4ed8aa4a, 0x5b9cca4f, 0x682e6ff3,
   0x748f82ee, 0x78a5636f, 0x84c87814, 0x8cc70208, 0x90befffa, 0xa4506ceb, 0xbef9a3f7, 0xc67178f2]

/-- A word turned right by `n` bits. -/
def rotate (n x : UInt32) : UInt32 := x >>> n ||| x <<< (32 - n)

/-- One round, with its constant and its word of the message. -/
def round (s : State) (k w : UInt32) : State :=
  let choice := (s.e &&& s.f) ^^^ (~~~s.e &&& s.g)
  let majority := (s.a &&& s.b) ^^^ (s.a &&& s.c) ^^^ (s.b &&& s.c)
  let t₁ := s.h + (rotate 6 s.e ^^^ rotate 11 s.e ^^^ rotate 25 s.e) + choice + k + w
  let t₂ := (rotate 2 s.a ^^^ rotate 13 s.a ^^^ rotate 22 s.a) + majority
  ⟨t₁ + t₂, s.a, s.b, s.c, s.d + t₁, s.e, s.f, s.g⟩

/-- The word of the message that follows sixteen others. -/
def nextWord (w : List UInt32) : UInt32 :=
  let word (i : Nat) : UInt32 := w.getD i 0
  let s₀ := rotate 7 (word 1) ^^^ rotate 18 (word 1) ^^^ word 1 >>> 3
  let s₁ := rotate 17 (word 14) ^^^ rotate 19 (word 14) ^^^ word 14 >>> 10
  word 0 + s₀ + word 9 + s₁

/-- The rounds with the given constants; `w` holds the next sixteen words of the
message. -/
def rounds (s : State) (w : List UInt32) : List UInt32 → State
  | [] => s
  | k :: ks => rounds (round s k (w.headD 0)) (w.tail ++ [nextWord w]) ks

/-- Four bytes each as a word, the first byte being the highest. -/
def wordsOf : List UInt8 → List UInt32
  | a :: b :: c :: d :: rest =>
    (a.toUInt32 <<< 24 ||| b.toUInt32 <<< 16 ||| c.toUInt32 <<< 8 ||| d.toUInt32) :: wordsOf rest
  | _ => []

/-- Takes a block into the state. -/
def compress (s : State) (block : List UInt8) : State :=
  s.add (rounds s (wordsOf block) roundConstants)

/-- The message filled up to whole blocks. -/
def pad (message : List UInt8) : List UInt8 :=
  message ++ 0x80 :: List.replicate ((119 - message.length % 64) % 64) 0 ++
    bigEndian64 (UInt64.ofNat (8 * message.length))

/-- The first `n` blocks. -/
def blocks : Nat → List UInt8 → List (List UInt8)
  | 0, _ => []
  | n + 1, bs => bs.take 64 :: blocks n (bs.drop 64)

/-- The state after the whole message. -/
def final (message : List UInt8) : State :=
  let padded := pad message
  (blocks (padded.length / 64) padded).foldl compress .initial

/-- The hash of a message. -/
def hash (message : List UInt8) : Bytes32 :=
  ⟨(final message).words.flatMap bigEndian32, rfl⟩

end ExecutionLink.Sha256
