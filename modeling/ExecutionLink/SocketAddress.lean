/-
Socket addresses: an IP address and a port.

An IPv4 address is four numbers without leading zeros.  An IPv6 address stands
in brackets, possibly with the number of a scope; it has eight groups of
hexadecimal digits, one gap may stand for groups of zeros, and the last two
groups may be written as an IPv4 address.  Nothing else may stand around an
address.  `render` gives the shortest form: the longest gap is left out.
-/

namespace ExecutionLink

/-- An IP address; an IPv6 address is given by its eight groups. -/
inductive IpAddress where
  | v4 (a b c d : Nat)
  | v6 (groups : List Nat) (scope : Nat)
  deriving Repr, DecidableEq

/-- A socket address. -/
structure SocketAddress where
  ip : IpAddress
  port : Nat
  deriving Repr, DecidableEq

namespace SocketAddress

/-! ### Reading -/

/-- Reads something from the front of a text and gives the rest. -/
abbrev Reader (α : Type) := List Char → Option (α × List Char)

namespace Reader

/-- The value of a digit in a base of up to sixteen. -/
def digit? (base : Nat) (c : Char) : Option Nat :=
  let value :=
    if c.isDigit then c.toNat - '0'.toNat
    else if 'a' ≤ c ∧ c ≤ 'f' then c.toNat - 'a'.toNat + 10
    else if 'A' ≤ c ∧ c ≤ 'F' then c.toNat - 'A'.toNat + 10
    else base
  if value < base then some value else none

/-- The digits at the front of a text, and the rest. -/
def digits (base : Nat) : List Char → List Nat × List Char
  | [] => ([], [])
  | c :: cs =>
    match digit? base c with
    | some d => let (ds, rest) := digits base cs; (d :: ds, rest)
    | none => ([], c :: cs)

/-- Reads a number below a bound. -/
def number (base bound : Nat) : Reader Nat := fun cs =>
  let (ds, rest) := digits base cs
  let value := ds.foldl (fun n d => base * n + d) 0
  if ds = [] ∨ bound ≤ value then none else some (value, rest)

/-- Reads a number of an IPv4 address: at most three digits, and no leading
zeros. -/
def byte : Reader Nat := fun cs =>
  let ds := (digits 10 cs).1
  if 3 < ds.length ∨ (1 < ds.length ∧ ds.head? = some 0) then none else number 10 256 cs

/-- Reads a group of an IPv6 address: at most four digits. -/
def group : Reader Nat := fun cs =>
  if 4 < (digits 16 cs).1.length then none else number 16 65536 cs

/-- Reads a character that must be there. -/
def char (c : Char) : Reader Unit
  | [] => none
  | d :: rest => if c = d then some ((), rest) else none

/-- Reads an IPv4 address. -/
def ipv4 : Reader (Nat × Nat × Nat × Nat) := fun cs => do
  let (a, cs) ← byte cs
  let ((), cs) ← char '.' cs
  let (b, cs) ← byte cs
  let ((), cs) ← char '.' cs
  let (c, cs) ← byte cs
  let ((), cs) ← char '.' cs
  let (d, cs) ← byte cs
  return ((a, b, c, d), cs)

/-- Reads up to the given number of groups with colons between them; says
whether an IPv4 address ended them. -/
def groups (first : Bool) : Nat → List Char → List Nat × Bool × List Char
  | 0, cs => ([], false, cs)
  | n + 1, cs =>
    match if first then some ((), cs) else char ':' cs with
    | none => ([], false, cs)
    | some ((), behind) =>
      match if n = 0 then none else ipv4 behind with
      | some ((a, b, c, d), rest) => ([256 * a + b, 256 * c + d], true, rest)
      | none =>
        match group behind with
        | some (g, rest) =>
          let (gs, embedded, rest) := groups false n rest
          (g :: gs, embedded, rest)
        | none => ([], false, cs)

/-- Reads an IPv6 address. -/
def ipv6 : Reader (List Nat) := fun cs =>
  let (front, embedded, rest) := groups true 8 cs
  if front.length = 8 then some (front, rest)
  else if embedded then none
  else
    match rest with
    | ':' :: ':' :: rest =>
      let (back, _, rest) := groups true (7 - front.length) rest
      some (front ++ List.replicate (8 - front.length - back.length) 0 ++ back, rest)
    | _ => none

/-- Reads a colon and a port. -/
def port : Reader Nat := fun cs => do
  let ((), cs) ← char ':' cs
  number 10 65536 cs

/-- Reads the number of a scope, which is zero if none is given. -/
def scope (cs : List Char) : Nat × List Char :=
  match char '%' cs >>= fun ((), cs) => number 10 UInt32.size cs with
  | some (n, rest) => (n, rest)
  | none => (0, cs)

/-- Reads an address with an IPv4 address. -/
def withIpv4 : Reader SocketAddress := fun cs => do
  let ((a, b, c, d), cs) ← ipv4 cs
  let (port, cs) ← port cs
  return (⟨.v4 a b c d, port⟩, cs)

/-- Reads an address with an IPv6 address. -/
def withIpv6 : Reader SocketAddress := fun cs => do
  let ((), cs) ← char '[' cs
  let (groups, cs) ← ipv6 cs
  let (scope, cs) := scope cs
  let ((), cs) ← char ']' cs
  let (port, cs) ← port cs
  return (⟨.v6 groups scope, port⟩, cs)

end Reader

/-- The address that a text is. -/
def parse? (text : String) : Option SocketAddress :=
  match (Reader.withIpv4 text.toList).orElse fun () => Reader.withIpv6 text.toList with
  | some (address, []) => some address
  | _ => none

/-! ### Writing -/

/-- An IPv4 address. -/
def renderIpv4 (a b c d : Nat) : String := s!"{a}.{b}.{c}.{d}"

/-- Groups with colons between them. -/
def renderGroups (gs : List Nat) : String :=
  ":".intercalate (gs.map fun g => String.ofList (Nat.toDigits 16 g))

/-- How many zeros stand at the front. -/
def zeros (gs : List Nat) : Nat := (gs.takeWhile (· = 0)).length

/-- Where the first of the longest runs of zeros starts, and how long it is. -/
def longestGap (gs : List Nat) : Nat × Nat :=
  (List.range gs.length).foldl (fun (start, length) i =>
    let n := zeros (gs.drop i)
    if length < n then (i, n) else (start, length)) (0, 0)

/-- An IPv6 address. The last groups of an address that stands for an IPv4
address are written as one. -/
def renderIpv6 (gs : List Nat) : String :=
  match gs with
  | [0, 0, 0, 0, 0, 0xffff, g, h] =>
    "::ffff:" ++ renderIpv4 (g / 256) (g % 256) (h / 256) (h % 256)
  | gs =>
    let (start, length) := longestGap gs
    if 1 < length then
      renderGroups (gs.take start) ++ "::" ++ renderGroups (gs.drop (start + length))
    else renderGroups gs

/-- The text of an address. -/
def render (a : SocketAddress) : String :=
  match a.ip with
  | .v4 b c d e => s!"{renderIpv4 b c d e}:{a.port}"
  | .v6 groups 0 => s!"[{renderIpv6 groups}]:{a.port}"
  | .v6 groups scope => s!"[{renderIpv6 groups}%{scope}]:{a.port}"

end SocketAddress

end ExecutionLink
