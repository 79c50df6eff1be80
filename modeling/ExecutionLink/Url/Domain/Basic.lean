/-
Domains.

A domain is a row of labels with dots between them.  Its text is mapped to the
characters that it stands for and brought into normal form before it is divided.
A label with characters beyond ASCII also has an ASCII form, which is marked as one;
a label may be given by that form if it is the form of a label that stands for
itself.  `toAscii?` gives the ASCII form of a domain.
-/
import ExecutionLink.Url.Domain.Direction
import ExecutionLink.Url.Domain.Joiner
import ExecutionLink.Url.Domain.Mapping
import ExecutionLink.Url.Domain.Normal
import ExecutionLink.Url.Punycode

namespace ExecutionLink.Url.Domain

/-- Whether a character is beyond ASCII. -/
def isInternational (c : Char) : Bool := 0x80 ≤ c.toNat

/-- The characters that no host may contain. -/
def isForbiddenInHost (c : Char) : Bool :=
  "\x00\t\n\r #/:<>?@[\\]^|".toList.contains c

/-- The ASCII characters that no domain may contain. -/
def isForbidden (c : Char) : Bool :=
  isForbiddenInHost c || c = '%' || c.toNat < 0x20 || c.toNat = 0x7F

/-! ### Labels -/

/-- A label with its ASCII form. -/
structure Label where
  text : List Char
  ascii : List Char

/-- What stands in front of the ASCII form of an international label. -/
def marker : List Char := "xn--".toList

/-- How long an ASCII form may be that is read. -/
def longestForm : Nat := 2000

/-- How long a label may be whose ASCII form is written. -/
def longestLabel : Nat := 1000

/-- Whether a text stands for itself. -/
def isStable (cs : List Char) : Bool :=
  cs.all (fun c => image? c = some [c]) && normalize cs = cs

/-- The label whose ASCII form is given without its marker. It must be an
international one. -/
def Label.ofForm? (form : List Char) : Option Label :=
  if form.any isInternational ∨ form.getLast?.all (· = '-') ∨ longestForm < form.length then none
  else
    match Punycode.decode form with
    | some text =>
      if text.any isInternational ∧ isStable text then some ⟨text, marker ++ form⟩ else none
    | none => none

/-- The label that a text is. -/
def Label.ofText? (cs : List Char) : Option Label :=
  if marker.isPrefixOf cs then Label.ofForm? (cs.drop marker.length)
  else if !cs.any isInternational then some ⟨cs, cs⟩
  else if cs.length ≤ longestLabel then some ⟨cs, marker ++ Punycode.encode cs⟩
  else none

/-- Whether a label starts with a character of its own and its joiners can be
seen. -/
def Label.isWellFormed (l : Label) : Bool :=
  !(l.text.head?.any isMark) && joinersFit [] l.text

/-! ### Domains -/

/-- The labels of a domain that is mapped and in normal form. -/
def labels? (cs : List Char) : Option (List Label) := do
  let labels ← (cs.splitOn '.').mapM Label.ofText?
  if labels.all (·.isWellFormed) && keepsDirection (labels.map (·.text)) then some labels else none

/-- The ASCII form of the domain that a text names. -/
def toAscii? (cs : List Char) : Option (List Char) := do
  let domain := normalize (← mapped? cs)
  if domain.any isForbidden then none
  else return ['.'].intercalate ((← labels? domain).map (·.ascii))

end ExecutionLink.Url.Domain
