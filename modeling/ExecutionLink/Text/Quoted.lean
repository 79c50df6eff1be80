/-
Quoted forms of texts and characters, as they appear in diagnostic output.

The null character, tab, line feed, carriage return, the backslash and the quotation
mark that a form is wrapped in have short escapes, and hidden characters (see
`isHidden`) are written by their code point in braces.  A text is wrapped in double
quotes and a character in apostrophes.
-/
import ExecutionLink.Text.Printable

namespace ExecutionLink.Text

/-- A code point written in hexadecimal between braces. -/
def codePointEscape (c : Char) : List Char :=
  ['\\', 'u', '{'] ++ Nat.toDigits 16 c.toNat ++ ['}']

/-- The form of a character inside a form that is wrapped in the given mark. -/
def quoted (mark c : Char) : List Char :=
  if c = '\x00' then ['\\', '0']
  else if c = '\t' then ['\\', 't']
  else if c = '\n' then ['\\', 'n']
  else if c = '\r' then ['\\', 'r']
  else if c = '\\' ∨ c = mark then ['\\', c]
  else if isHidden c then codePointEscape c
  else [c]

/-- A text between double quotes. -/
def quoteText (s : String) : String :=
  String.ofList ('"' :: s.toList.flatMap (quoted '"') ++ ['"'])

/-- A character between apostrophes. -/
def quoteChar (c : Char) : String :=
  String.ofList ('\'' :: quoted '\'' c ++ ['\''])

end ExecutionLink.Text
