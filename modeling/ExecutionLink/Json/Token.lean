/-
The tokens of a JSON text.

White space between tokens is the space, tab, line feed and carriage return
only.  Where the text goes on with something that is no token, a `junk` token
ends the list: nothing behind it is ever looked at.
-/
import ExecutionLink.Json.Literal

namespace ExecutionLink.Json

/-- A token; literals keep their written form. -/
inductive Token where
  | openObject
  | closeObject
  | openArray
  | closeArray
  | colon
  | comma
  | null
  | bool (b : Bool)
  | number (n : NumberLiteral)
  | string (s : StringLiteral)
  | junk
  deriving Repr, DecidableEq

namespace Token

/-- The blanks that may stand between tokens. -/
def isSpace (c : Char) : Bool :=
  c = ' ' || c = '\t' || c = '\n' || c = '\r'

/-- The token a text starts with, and the text behind it. -/
def next? : List Char → Option (Token × List Char)
  | '{' :: cs => some (.openObject, cs)
  | '}' :: cs => some (.closeObject, cs)
  | '[' :: cs => some (.openArray, cs)
  | ']' :: cs => some (.closeArray, cs)
  | ':' :: cs => some (.colon, cs)
  | ',' :: cs => some (.comma, cs)
  | 'n' :: 'u' :: 'l' :: 'l' :: cs => some (.null, cs)
  | 't' :: 'r' :: 'u' :: 'e' :: cs => some (.bool true, cs)
  | 'f' :: 'a' :: 'l' :: 's' :: 'e' :: cs => some (.bool false, cs)
  | '"' :: cs => (readString cs).map fun (s, rest) => (.string s, rest)
  | cs => (readNumber cs).map fun (n, rest) => (.number n, rest)

theorem length_next? {cs rest : List Char} {t : Token} (h : next? cs = some (t, rest)) :
    rest.length < cs.length := by
  unfold next? at h
  split at h
  case h_10 cs' =>
    obtain ⟨⟨s, r⟩, hr, he⟩ := Option.map_eq_some_iff.1 h
    have := length_readString hr
    simp only [Prod.mk.injEq] at he
    simp only [List.length_cons]
    rw [← he.2]; omega
  case h_11 =>
    obtain ⟨⟨n, r⟩, hr, he⟩ := Option.map_eq_some_iff.1 h
    have := length_readNumber hr
    simp only [Prod.mk.injEq] at he
    rw [← he.2]; omega
  all_goals
    simp only [Option.some.injEq, Prod.mk.injEq] at h
    obtain ⟨-, rfl⟩ := h
    simp only [List.length_cons]; omega

/-- The tokens of a text, up to the first thing that is none. -/
def ofText : List Char → List Token
  | [] => []
  | c :: cs =>
    if isSpace c then ofText cs
    else
      match _h : next? (c :: cs) with
      | some (t, rest) => t :: ofText rest
      | none => [.junk]
termination_by cs => cs.length
decreasing_by
  · exact Nat.lt_succ_self _
  · exact length_next? (by assumption)

end Token

end ExecutionLink.Json
