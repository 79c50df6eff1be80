/-
Targets of requests.

A request names what it is about by a path, by a URL with a host and a path, by a
host alone or by an asterisk.  Only the first two ask for a path.  `RequestTarget.ofText?`
refuses a text that is none of the four; unlike the URL of an endpoint such a text
is never mended.
-/

namespace ExecutionLink.Http

/-- What a request is about. -/
inductive RequestTarget where
  /-- A path, alone or behind a host. -/
  | path (path : String)
  /-- A host alone. -/
  | authority (authority : String)
  /-- The server as a whole. -/
  | asterisk
  deriving Repr, DecidableEq

namespace RequestTarget

/-! ### Paths -/

/-- Whether a query may hold a character as it is. -/
def isQueryCharacter (c : Char) : Bool :=
  0x20 < c.toNat && c ∉ ['"', '#', '<', '>']

/-- Whether a path may hold a character as it is. -/
def isPathCharacter (c : Char) : Bool :=
  c = '"' || (isQueryCharacter c && c ∉ ['?', '`'])

/-- The path at the front of a text that may go on with a query and a fragment.
The path of a host without one is the root. -/
def readPath (cs : List Char) : Option RequestTarget :=
  let (front, rest) := cs.span isPathCharacter
  let behind :=
    match rest with
    | '?' :: rest => rest.dropWhile isQueryCharacter
    | _ => rest
  if behind.head?.all (· = '#') then some (.path (if front = [] then "/" else String.ofList front))
  else none

/-! ### Hosts -/

/-- Where a reader of an authority stands: the colons and whether there were
percent signs since the last bracket or at sign, and the brackets so far. -/
structure AuthorityState where
  colons : Nat := 0
  percent : Bool := false
  opened : Bool := false
  closed : Bool := false

/-- How many colons the parts of an authority may have; an IPv6 address and its
port have the most. -/
def maxColons : Nat := 8

/-- Characters without a meaning of their own in an authority. -/
def isPlainCharacter (c : Char) : Bool :=
  c.isAlphanum || c ∈ "!$&'()*+,-.;=_~".toList

/-- Reads a character of an authority. -/
def AuthorityState.read (s : AuthorityState) (c : Char) : Option AuthorityState :=
  if c = ':' then
    if s.colons < maxColons then some { s with colons := s.colons + 1 } else none
  else if c = '[' then
    if s.percent || s.opened then none else some { s with opened := true }
  else if c = ']' then
    if s.opened && !s.closed then some { colons := 0, percent := false, opened := true, closed := true }
    else none
  else if c = '@' then some { s with colons := 0, percent := false }
  else if c = '%' then some { s with percent := true }
  else if isPlainCharacter c then some s
  else none

/-- Whether an authority can be over: the brackets match, only the port has a
colon in front, and no percent sign is in the host. -/
def AuthorityState.isFinal (s : AuthorityState) : Bool :=
  s.opened == s.closed && s.colons ≤ 1 && !s.percent

/-- Whether a text is an authority: a host, with a port and with user data in
front of an at sign if it has them. -/
def isAuthority (cs : List Char) : Bool :=
  (cs.foldlM AuthorityState.read {}).any (·.isFinal) && cs ≠ [] && cs.getLast? ≠ some '@'

/-! ### Targets -/

/-- Whether the name of a scheme can hold a character. -/
def isSchemeCharacter (c : Char) : Bool :=
  c.isAlphanum || c ∈ ['+', '-', '.', '~']

/-- How long the name of a scheme may be. -/
def maxSchemeLength : Nat := 64

/-- Reads what follows a scheme: a host and a path. -/
def readAbsolute (cs : List Char) : Option RequestTarget :=
  let (host, rest) := cs.span (· ∉ ['/', '?', '#'])
  if isAuthority host then readPath rest else none

/-- The target that a text names. -/
def ofText? (text : String) : Option RequestTarget :=
  match text.toList with
  | ['*'] => some .asterisk
  | '/' :: cs => readPath ('/' :: cs)
  | cs =>
    match cs.span isSchemeCharacter with
    | (scheme, ':' :: '/' :: '/' :: rest) =>
      if scheme.length ≤ maxSchemeLength then readAbsolute rest else none
    | _ => if isAuthority cs then some (.authority text) else none

/-- The path that is asked for. -/
def path? : RequestTarget → Option String
  | .path p => some p
  | _ => none

end RequestTarget

end ExecutionLink.Http
