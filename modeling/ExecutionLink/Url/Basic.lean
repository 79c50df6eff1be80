/-
Absolute URLs, as far as a client has to know them.

`Url.parse` reads a text the lenient way: controls and spaces around it and tabs
and line breaks anywhere in it are ignored, and for the common schemes a
backslash is as good as a slash and any number of slashes may follow the colon.
Path and query come out normalised, with dot segments resolved and characters
percent-encoded, so that `Url.target` is what a request asks for.
-/
import ExecutionLink.Bytes.Hex
import ExecutionLink.Url.Host

namespace ExecutionLink

/-- An absolute URL without its fragment. A port that is the scheme's own is not
kept. -/
structure Url where
  scheme : String
  host : Option Url.Host
  port : Option Nat
  path : List Char
  query : Option (List Char)
  deriving Repr, DecidableEq

namespace Url

/-- How the text behind a scheme is read. -/
inductive Kind where
  /-- A common scheme with an authority and its usual port. -/
  | authority (port : Nat)
  | file
  | other
  deriving DecidableEq

/-- The kind of a scheme. -/
def kindOf (scheme : String) : Kind :=
  match scheme with
  | "http" | "ws" => .authority 80
  | "https" | "wss" => .authority 443
  | "ftp" => .authority 21
  | "file" => .file
  | _ => .other

/-- Slashes of either kind. -/
def isSlash (c : Char) : Bool := c = '/' || c = '\\'

/-- The text that counts: without controls and spaces around it, and without
tabs and line breaks. -/
def relevant (cs : List Char) : List Char :=
  let outer (c : Char) := c.toNat ≤ 0x20
  (((cs.dropWhile outer).reverse.dropWhile outer).reverse).filter
    fun c => !(c = '\t' || c = '\n' || c = '\r')

/-- The characters of a scheme behind its first letter. -/
def isSchemeChar (c : Char) : Bool :=
  c.isAlphanum || c = '+' || c = '-' || c = '.'

/-- The scheme, in lower case, and the text behind its colon. -/
def splitScheme (cs : List Char) : Option (String × List Char) :=
  match cs.span isSchemeChar with
  | (c :: scheme, ':' :: rest) =>
    if c.isAlpha then some (String.ofList ((c :: scheme).map Char.toLower), rest) else none
  | _ => none

/-- Whether a character ends the authority. -/
def endsAuthority (common : Bool) (c : Char) : Bool :=
  c = '/' || c = '?' || c = '#' || (common && c = '\\')

/-- The text behind the last `@`, and the text before it if there is one. -/
def splitUser (cs : List Char) : Option (List Char) × List Char :=
  match cs.reverse.span (· ≠ '@') with
  | (host, _ :: user) => (some user.reverse, host.reverse)
  | (_, []) => (none, cs)

/-- The host's text and what follows it; a colon ends it outside brackets. -/
def splitHost (bracket : Bool) : List Char → List Char × List Char
  | [] => ([], [])
  | c :: cs =>
    if c = ':' && !bracket then ([], c :: cs)
    else
      let (host, rest) := splitHost (if c = '[' then true else if c = ']' then false else bracket) cs
      (c :: host, rest)

/-- The port behind a colon: decimal digits up to 65535, or none. -/
def parsePort (cs : List Char) : Except UrlError (Option Nat) :=
  if cs.all Char.isDigit then
    match Host.numberIn 10 cs with
    | some n =>
      if cs.isEmpty then .ok none else if n ≤ 65535 then .ok (some n) else .error .invalidPort
    | none => .error .invalidPort
  else .error .invalidPort

/-- Reads the port, which ends where even a text of another scheme would end. -/
def parsePortPart (cs : List Char) : Except UrlError (Option Nat × List Char) :=
  match cs with
  | ':' :: cs =>
    let (digits, rest) := cs.span fun c => !endsAuthority true c
    (parsePort digits).map (·, rest)
  | cs => .ok (none, cs)

/-- Whether a host must follow what stands before an `@`: a name or a password needs
one, and an empty text must not stand alone in front of a path. -/
def needsHost (user : Option (List Char)) (behind : List Char) : Bool :=
  match user with
  | none | some [':'] => false
  | some [] => !behind.isEmpty
  | some _ => true

/-- Reads an authority: the host, the port and the text behind them. -/
def parseAuthority (common : Bool) (cs : List Char) :
    Except UrlError (Host × Option Nat × List Char) := do
  let (authority, behind) := cs.span fun c => !endsAuthority common c
  let (user, hostPort) := splitUser authority
  let (hostText, portText) := splitHost false hostPort
  if hostText.isEmpty ∧ (common ∨ !portText.isEmpty ∨ needsHost user behind) then throw .emptyHost
  let host ← if common then Host.parse hostText else Host.parseOpaque hostText
  let (port, rest) ← parsePortPart (portText ++ behind)
  return (host, port, rest)

/-- A drive letter, which is no host. -/
def isDriveLetter : List Char → Bool
  | [c, d] => c.isAlpha && (d = ':' || d = '|')
  | _ => false

/-- The host of a file, if there is one. -/
def parseFileHost (cs : List Char) : Except UrlError (Option Host) :=
  match cs with
  | a :: b :: cs =>
    if isSlash a && isSlash b then
      let host := cs.takeWhile fun c => !endsAuthority true c
      if host.isEmpty || isDriveLetter host then .ok none else (Host.parse host).map some
    else .ok none
  | _ => .ok none

/-! ### Path and query -/

/-- A character written as its UTF-8 bytes in hexadecimal. -/
def percentEncode (c : Char) : List Char :=
  (String.utf8EncodeChar c).flatMap fun b =>
    '%' :: (Hex.digits b).map Char.toUpper

/-- Characters that are encoded in a path. -/
def isEncodedInPath (c : Char) : Bool :=
  c.toNat ≤ 0x20 || 0x7E < c.toNat || "\"#<>?`\x7b\x7d".toList.contains c

/-- Characters that are encoded in a query. -/
def isEncodedInQuery (c : Char) : Bool :=
  c.toNat ≤ 0x20 || 0x7E < c.toNat || "\"#<>'".toList.contains c

/-- Encodes the characters that `p` selects. -/
def encodeWhere (p : Char → Bool) (cs : List Char) : List Char :=
  cs.flatMap fun c => if p c then percentEncode c else [c]

/-- A segment with its encoded dots read as dots. -/
def plainDots : List Char → List Char
  | '%' :: '2' :: 'e' :: cs => '.' :: plainDots cs
  | '%' :: '2' :: 'E' :: cs => '.' :: plainDots cs
  | c :: cs => c :: plainDots cs
  | [] => []

/-- The segments of a path with the dot segments resolved, latest first. A dot
segment at the end leaves an empty segment. -/
def resolveSegments (done : List (List Char)) : List (List Char) → List (List Char)
  | [] => done
  | segment :: segments =>
    let atEnd := segments.isEmpty
    if plainDots segment = ['.', '.'] then
      resolveSegments (if atEnd then [] :: done.tail else done.tail) segments
    else if plainDots segment = ['.'] then
      resolveSegments (if atEnd then [] :: done else done) segments
    else resolveSegments (segment :: done) segments

/-- The normalised path of a common scheme: it starts with a slash. -/
def normalizePath (cs : List Char) : List Char :=
  let body := match cs with
    | c :: rest => if isSlash c then rest else c :: rest
    | [] => []
  let segments := (body.map fun c => if c = '\\' then '/' else c).splitOn '/'
  (resolveSegments [] segments).reverse.flatMap fun segment =>
    '/' :: encodeWhere isEncodedInPath segment

/-- The query behind a path, encoded. The fragment is left out. -/
def queryOf (cs : List Char) : Option (List Char) :=
  match cs with
  | '?' :: query => some (encodeWhere isEncodedInQuery (query.takeWhile (· ≠ '#')))
  | _ => none

/-- Reads an absolute URL. -/
def parse (text : String) : Except UrlError Url := do
  match splitScheme (relevant text.toList) with
  | none => throw .relativeWithoutBase
  | some (scheme, rest) =>
    match kindOf scheme with
    | .authority usual => do
      let (host, port, rest) ← parseAuthority true (rest.dropWhile isSlash)
      let (path, rest) := rest.span fun c => c ≠ '?' ∧ c ≠ '#'
      return ⟨scheme, some host, port.filter (· ≠ usual), normalizePath path, queryOf rest⟩
    | .file => do
      let host ← parseFileHost rest
      return ⟨scheme, host, none, [], none⟩
    | .other =>
      match rest with
      | '/' :: '/' :: rest => do
        let (host, port, rest) ← parseAuthority false rest
        let (path, rest) := rest.span fun c => c ≠ '?' ∧ c ≠ '#'
        return ⟨scheme, some host, port, path, queryOf rest⟩
      | rest =>
        let (path, rest) := rest.span fun c => c ≠ '?' ∧ c ≠ '#'
        return ⟨scheme, none, none, path, queryOf rest⟩

/-- The port that is connected to. -/
def effectivePort (u : Url) : Nat :=
  u.port.getD <|
    match kindOf u.scheme with
    | .authority usual => usual
    | _ => 0

/-- What a request for the URL asks for: its path and query. -/
def target (u : Url) : String :=
  String.ofList (u.path ++ match u.query with
    | some query => '?' :: query
    | none => [])

/-- The URL at the same scheme, host and port with another path. -/
def withPath (u : Url) (path : String) : Url :=
  { u with path := path.toList, query := none }

end Url

end ExecutionLink
