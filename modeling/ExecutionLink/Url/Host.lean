/-
The host of a URL: a domain, an IPv4 address or an IPv6 address.

A host in brackets is an IPv6 address.  Any other host is percent-decoded, read
as UTF-8 and turned into the ASCII form of the domain it names; a domain whose last
label is a number must be an IPv4 address of one to four parts.
-/
import ExecutionLink.Text.Encoding
import ExecutionLink.Url.Domain.Basic

namespace ExecutionLink

/-- Why a text is no URL. -/
inductive UrlError where
  | relativeWithoutBase
  | emptyHost
  | invalidPort
  | invalidIpv4
  | invalidIpv6
  | invalidDomain
  | invalidHostCharacter
  deriving Repr, DecidableEq

/-- The wording of an error. -/
def UrlError.message : UrlError → String
  | .relativeWithoutBase => "relative URL without a base"
  | .emptyHost => "empty host"
  | .invalidPort => "invalid port number"
  | .invalidIpv4 => "invalid IPv4 address"
  | .invalidIpv6 => "invalid IPv6 address"
  | .invalidDomain => "invalid international domain name"
  | .invalidHostCharacter => "invalid domain character"

namespace Url

/-- Who is addressed. A domain is given by its ASCII form, and an IPv6 address by its
eight parts. -/
inductive Host where
  | domain (name : List Char)
  | ipv4 (address : Nat)
  | ipv6 (parts : List Nat)
  deriving Repr, DecidableEq

namespace Host

/-- The number that digits of the given base stand for. -/
def numberIn (base : Nat) (cs : List Char) : Option Nat :=
  cs.foldlM (fun n c =>
    match Punycode.digit? c with
    | some d =>
      -- Numerals come after the 26 letters there, and before them here.
      let v := if 26 ≤ d then d - 26 else d + 10
      if v < base then some (base * n + v) else none
    | none => none) 0

/-! ### IPv4 -/

/-- A part of an IPv4 address: hexadecimal behind `0x`, octal behind `0`, and
decimal otherwise. Nothing behind the marker is zero. -/
def ipv4Part? : List Char → Option Nat
  | [] => none
  | '0' :: 'x' :: cs => numberIn 16 cs
  | '0' :: 'X' :: cs => numberIn 16 cs
  | '0' :: c :: cs => numberIn 8 (c :: cs)
  | cs => numberIn 10 cs

/-- The labels of a domain, without an empty one at its end. -/
def labels (cs : List Char) : List (List Char) :=
  let parts := cs.splitOn '.'
  if parts.getLast? = some [] then parts.dropLast else parts

/-- Whether the last label is meant as a number. -/
def endsInNumber (cs : List Char) : Bool :=
  match (labels cs).getLast? with
  | none => false
  | some last => (!last.isEmpty && last.all Char.isDigit) || (ipv4Part? last).isSome

/-- The address with the given parts: the last part fills all the bytes that the
others, one byte each, leave. -/
def ipv4OfParts (parts : List Nat) : Option Nat :=
  match parts.reverse with
  | [] => none
  | last :: others =>
    if 3 < others.length ∨ others.any (255 < ·) ∨ Nat.pow 256 (4 - others.length) ≤ last then none
    else some (others.reverse.foldl (fun n part => 256 * n + part) 0
      * Nat.pow 256 (4 - others.length) + last)

/-- The IPv4 address that a domain is. -/
def parseIpv4 (cs : List Char) : Except UrlError Host :=
  match (labels cs).mapM ipv4Part? >>= ipv4OfParts with
  | some address => .ok (.ipv4 address)
  | none => .error .invalidIpv4

/-! ### IPv6 -/

/-- A part of an IPv6 address: one to four hexadecimal digits. -/
def ipv6Part? (cs : List Char) : Option Nat :=
  if cs.isEmpty ∨ 4 < cs.length then none else numberIn 16 cs

/-- One of the four numbers at the end of an IPv6 address that is written with
an IPv4 address: at most 255 and without leading zeros. -/
def byte? (cs : List Char) : Option Nat :=
  match cs with
  | [] => none
  | '0' :: _ :: _ => none
  | cs => (numberIn 10 cs).filter (· ≤ 255)

/-- The two parts that an IPv4 address at the end stands for. -/
def embedded? (cs : List Char) : Option (List Nat) :=
  match (cs.splitOn '.').mapM byte? with
  | some [a, b, c, d] => some [256 * a + b, 256 * c + d]
  | _ => none

/-- The parts of one side of an address; `last` says that the side ends it. -/
def ipv6Parts? (last : Bool) (cs : List Char) : Option (List Nat) :=
  if cs.isEmpty then some []
  else
    let groups := cs.splitOn ':'
    match groups.mapM ipv6Part? with
    | some parts => some parts
    | none =>
      if last then do
        let front ← groups.dropLast.mapM ipv6Part?
        let back ← groups.getLast? >>= embedded?
        return front ++ back
      else none

/-- The text before and behind the first double colon. -/
def splitGap : List Char → Option (List Char × List Char)
  | ':' :: ':' :: cs => some ([], cs)
  | c :: cs => (splitGap cs).map fun (before, behind) => (c :: before, behind)
  | [] => none

/-- The address between brackets: eight parts, or fewer with one gap for the
zeros that are left out. -/
def parseIpv6 (cs : List Char) : Except UrlError Host :=
  match splitGap cs with
  | none =>
    match ipv6Parts? true cs with
    | some parts => if parts.length = 8 then .ok (.ipv6 parts) else .error .invalidIpv6
    | none => .error .invalidIpv6
  | some (before, behind) =>
    match ipv6Parts? false before, ipv6Parts? true behind with
    | some front, some back =>
      let zeros := 8 - front.length - back.length
      if 0 < zeros then .ok (.ipv6 (front ++ List.replicate zeros 0 ++ back))
      else .error .invalidIpv6
    | _, _ => .error .invalidIpv6

/-! ### Domains -/

/-- The bytes of a text in which `%` and two hexadecimal digits stand for one. -/
def percentDecode : List Char → List UInt8
  | '%' :: a :: b :: cs =>
    match numberIn 16 [a, b] with
    | some n => UInt8.ofNat n :: percentDecode cs
    | none => String.utf8EncodeChar '%' ++ percentDecode (a :: b :: cs)
  | c :: cs => String.utf8EncodeChar c ++ percentDecode cs
  | [] => []

/-- The host of a URL of one of the common schemes. -/
def parse (cs : List Char) : Except UrlError Host :=
  match cs with
  | '[' :: rest =>
    if rest.getLast? = some ']' then parseIpv6 rest.dropLast else .error .invalidIpv6
  | cs =>
    match Domain.toAscii? (Text.Utf8.decode (percentDecode cs)) with
    | none => .error .invalidDomain
    | some [] => .error .emptyHost
    | some name => if endsInNumber name then parseIpv4 name else .ok (.domain name)

/-- The host of a URL of another scheme, which is kept as it is. -/
def parseOpaque (cs : List Char) : Except UrlError Host :=
  match cs with
  | '[' :: rest =>
    if rest.getLast? = some ']' then parseIpv6 rest.dropLast else .error .invalidIpv6
  | cs => if cs.any Domain.isForbiddenInHost then .error .invalidHostCharacter else .ok (.domain cs)

end Host

end Url

end ExecutionLink
