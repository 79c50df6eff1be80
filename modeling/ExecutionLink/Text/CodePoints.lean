/-
Tables over code points.

A table gives a value to every code point of some ranges.  It is written as rows
of text, which are read as one: entries stand between commas, and an entry is a
code point or a range of code points in hexadecimal digits, possibly with a value
behind an equals sign.  The ranges are in increasing order, so that a code point
is found by halving.
-/

namespace ExecutionLink.Text

/-- A range of code points that share a value. -/
structure CodePointRange (α : Type) where
  first : Nat
  last : Nat
  value : α

/-- A table: ranges in increasing order. -/
structure CodePointTable (α : Type) where
  ranges : Array (CodePointRange α)

namespace CodePointTable

variable {α : Type}

/-- The number that hexadecimal digits stand for. -/
def hexadecimal (cs : List Char) : Nat :=
  cs.foldl (fun n c => 16 * n + (if c.isDigit then c.toNat - 0x30 else c.toNat - 0x57)) 0

/-- Reads an entry, and its value by `read`. -/
def readEntry (read : List Char → α) (entry : List Char) : CodePointRange α :=
  let (range, value) := entry.span (· ≠ '=')
  let (first, last) := range.span (· ≠ '-')
  let start := hexadecimal first
  ⟨start, if last.isEmpty then start else hexadecimal last.tail, read value.tail⟩

/-- Reads a table, and its values by `read`. -/
def ofRows (read : List Char → α) (rows : List String) : CodePointTable α :=
  ⟨(((String.join rows).toList.splitOn ',').map (readEntry read)).toArray⟩

/-- Looks for a code point from one place of a table to another. -/
def search (t : CodePointTable α) (n low high : Nat) : Option (CodePointRange α) :=
  if low < high then
    let middle := (low + high) / 2
    match t.ranges[middle]? with
    | none => none
    | some r =>
      if n < r.first then t.search n low middle
      else if r.last < n then t.search n (middle + 1) high
      else some r
  else none
termination_by high - low

/-- The range of a character. -/
def find? (t : CodePointTable α) (c : Char) : Option (CodePointRange α) :=
  t.search c.toNat 0 t.ranges.size

/-- The value of a character. -/
def value? (t : CodePointTable α) (c : Char) : Option α :=
  (t.find? c).map (·.value)

/-- Whether a character is in one of the ranges. -/
def contains (t : CodePointTable α) (c : Char) : Bool :=
  (t.find? c).isSome

end CodePointTable

/-- A set of code points: a table without values. -/
abbrev CodePointSet := CodePointTable Unit

/-- Reads a set. -/
def CodePointSet.ofRows (rows : List String) : CodePointSet :=
  CodePointTable.ofRows (fun _ => ()) rows

end ExecutionLink.Text
