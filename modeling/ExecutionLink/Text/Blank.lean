/-
White space and the trimming of texts.

A character is *blank* when it has the Unicode property `White_Space`: the
ASCII controls from tab to carriage return, the space, the next-line control,
and the spaces and separators beyond ASCII.  Zero-width characters such as
U+200B and U+FEFF do not have the property, so they are never trimmed.

`trimmed` removes the blanks on both sides of a list of characters and `trim`
does it on a text.
-/

namespace ExecutionLink.Text

/-- The characters with the Unicode property `White_Space`. -/
def isBlank (c : Char) : Bool :=
  (9 ≤ c.toNat && c.toNat ≤ 13) || c.toNat = 0x20 || c.toNat = 0x85 || c.toNat = 0xA0
    || c.toNat = 0x1680 || (0x2000 ≤ c.toNat && c.toNat ≤ 0x200A) || c.toNat = 0x2028
    || c.toNat = 0x2029 || c.toNat = 0x202F || c.toNat = 0x205F || c.toNat = 0x3000

/-- The characters without the blanks at either end. -/
def trimmed (cs : List Char) : List Char :=
  ((cs.dropWhile isBlank).reverse.dropWhile isBlank).reverse

/-- The text without the blanks at either end. -/
def trim (s : String) : String :=
  String.ofList (trimmed s.toList)

@[simp] theorem toList_trim (s : String) : (trim s).toList = trimmed s.toList := by
  simp [trim]

/-- Two texts that differ at most in the case of ASCII letters. -/
def sameIgnoringCase (s t : String) : Bool :=
  s.toList.map Char.toLower = t.toList.map Char.toLower

end ExecutionLink.Text
