/-
String and number literals, as they are written in a JSON text.

A literal keeps what the text says and not yet what it means: a string literal
is a list of characters and `\u` units, a number literal three runs of digits.
Whether units pair up to characters and whether a number is in range is decided
by whoever reads the literal, since a literal that is only skipped may say
anything that has the right form.
-/
import ExecutionLink.Bytes.Hex

namespace ExecutionLink.Json

/-- An element of a string literal: a character, written as itself or with a
short escape, or a 16-bit unit written with four hexadecimal digits. -/
inductive Piece where
  | char (c : Char)
  | unit (u : Nat)
  deriving Repr, DecidableEq

/-- What stands between the quotes of a string. -/
abbrev StringLiteral := List Piece

/-- A number as written: its sign, the digits before the point, those after it
if there is a point, and the exponent's sign and digits if there is one. -/
structure NumberLiteral where
  negative : Bool
  whole : List Nat
  fraction : Option (List Nat)
  exponent : Option (Bool × List Nat)
  deriving Repr, DecidableEq

/-! ### Strings -/

/-- The value of a hexadecimal digit. -/
def hexDigit? (c : Char) : Option Nat :=
  if c.toNat < 128 then Hex.value? (UInt8.ofNat c.toNat) else none

/-- The unit that four hexadecimal digits stand for. -/
def unit? (a b c d : Char) : Option Nat := do
  let a ← hexDigit? a
  let b ← hexDigit? b
  let c ← hexDigit? c
  let d ← hexDigit? d
  return 4096 * a + 256 * b + 16 * c + d

/-- The character a letter stands for after a backslash. -/
def shortEscape? (c : Char) : Option Char :=
  if c = '"' then some '"'
  else if c = '\\' then some '\\'
  else if c = '/' then some '/'
  else if c = 'b' then some '\x08'
  else if c = 'f' then some '\x0c'
  else if c = 'n' then some '\n'
  else if c = 'r' then some '\r'
  else if c = 't' then some '\t'
  else none

/-- Puts a piece in front of what has been read after it. -/
def consPiece (p : Piece) : StringLiteral × List Char → StringLiteral × List Char
  | (ps, rest) => (p :: ps, rest)

/-- Reads a string literal up to its closing quote, the opening one being read
already; gives the literal and the text behind it. Control characters must be
escaped. -/
def readString : List Char → Option (StringLiteral × List Char)
  | [] => none
  | '"' :: rest => some ([], rest)
  | '\\' :: 'u' :: a :: b :: c :: d :: rest =>
    match unit? a b c d with
    | some u => (readString rest).map (consPiece (.unit u))
    | none => none
  | '\\' :: c :: rest =>
    match shortEscape? c with
    | some e => (readString rest).map (consPiece (.char e))
    | none => none
  | c :: rest =>
    if c = '\\' ∨ c.toNat < 0x20 then none
    else (readString rest).map (consPiece (.char c))

/-- Something is read, so less text is left. -/
theorem length_readString {cs : List Char} {s : StringLiteral} {rest : List Char}
    (h : readString cs = some (s, rest)) : rest.length < cs.length := by
  fun_induction readString cs generalizing s rest with
  | case1 => simp at h
  | case2 r => simp only [Option.some.injEq, Prod.mk.injEq] at h; simp [h.2]
  | case3 a b c d r u hu ih =>
    obtain ⟨⟨ps, r'⟩, hr, he⟩ := Option.map_eq_some_iff.1 h
    have := ih hr
    simp only [consPiece, Prod.mk.injEq] at he
    simp only [List.length_cons]
    rw [← he.2]; omega
  | case4 => simp at h
  | case5 c r _ e he ih =>
    obtain ⟨⟨ps, r'⟩, hr, he⟩ := Option.map_eq_some_iff.1 h
    have := ih hr
    simp only [consPiece, Prod.mk.injEq] at he
    simp only [List.length_cons]
    rw [← he.2]; omega
  | case6 => simp at h
  | case7 => simp at h
  | case8 c r _ _ _ hc ih =>
    obtain ⟨⟨ps, r'⟩, hr, he⟩ := Option.map_eq_some_iff.1 h
    have := ih hr
    simp only [consPiece, Prod.mk.injEq] at he
    simp only [List.length_cons]
    rw [← he.2]; omega

/-- The characters of a literal. A unit that is the first half of a pair must be
followed by a unit that is the second half, and no second half stands alone. -/
def characters? : StringLiteral → Option (List Char)
  | [] => some []
  | .char c :: ps => (characters? ps).map (c :: ·)
  | [.unit u] =>
    if Text.Utf16.isHigh u || Text.Utf16.isLow u then none else some [Char.ofNat u]
  | .unit u :: .unit v :: ps =>
    if Text.Utf16.isHigh u then
      if Text.Utf16.isLow v then (characters? ps).map (Text.Utf16.pair u v :: ·) else none
    else if Text.Utf16.isLow u then none
    else (characters? (.unit v :: ps)).map (Char.ofNat u :: ·)
  | .unit u :: .char c :: ps =>
    if Text.Utf16.isHigh u || Text.Utf16.isLow u then none
    else (characters? (.char c :: ps)).map (Char.ofNat u :: ·)

/-- The text a literal stands for. -/
def text? (s : StringLiteral) : Option String :=
  (characters? s).map String.ofList

/-! ### Numbers -/

/-- The digits at the start of a text, and the text behind them. -/
def digits (cs : List Char) : List Nat × List Char :=
  ((cs.takeWhile Char.isDigit).map fun c => c.toNat - '0'.toNat, cs.dropWhile Char.isDigit)

theorem length_digits (cs : List Char) :
    (digits cs).1.length + (digits cs).2.length = cs.length := by
  simp only [digits, List.length_map]
  rw [← List.length_append, List.takeWhile_append_dropWhile]

/-- The digits before the point: at least one, and no zero in front of others. -/
def readWhole (cs : List Char) : Option (List Nat × List Char) :=
  match digits cs with
  | ([], _) => none
  | (0 :: _ :: _, _) => none
  | (ds, rest) => some (ds, rest)

/-- The digits after a point, if there is a point. -/
def readFraction : List Char → Option (Option (List Nat) × List Char)
  | '.' :: cs =>
    match digits cs with
    | ([], _) => none
    | (ds, rest) => some (some ds, rest)
  | cs => some (none, cs)

/-- An optional sign, true for minus, and the text behind it. -/
def exponentSign : List Char → Bool × List Char
  | '+' :: cs => (false, cs)
  | '-' :: cs => (true, cs)
  | cs => (false, cs)

/-- The exponent, if there is one. -/
def readExponent (cs : List Char) : Option (Option (Bool × List Nat) × List Char) :=
  match cs with
  | [] => some (none, [])
  | c :: rest =>
    if c = 'e' ∨ c = 'E' then
      match digits (exponentSign rest).2 with
      | ([], _) => none
      | (ds, rest') => some (some ((exponentSign rest).1, ds), rest')
    else some (none, cs)

/-- Reads an unsigned number literal and gives the text behind it. -/
def readUnsigned (negative : Bool) (cs : List Char) : Option (NumberLiteral × List Char) :=
  match readWhole cs with
  | none => none
  | some (whole, cs) =>
    match readFraction cs with
    | none => none
    | some (fraction, cs) =>
      match readExponent cs with
      | none => none
      | some (exponent, cs) => some (⟨negative, whole, fraction, exponent⟩, cs)

/-- Reads a number literal and gives the text behind it. -/
def readNumber : List Char → Option (NumberLiteral × List Char)
  | '-' :: cs => readUnsigned true cs
  | cs => readUnsigned false cs

theorem length_readWhole {cs rest : List Char} {ds : List Nat}
    (h : readWhole cs = some (ds, rest)) : rest.length < cs.length := by
  have hl := length_digits cs
  unfold readWhole at h
  split at h
  · simp at h
  · simp at h
  · next ds' rest' hne _ hd =>
    simp only [Option.some.injEq, Prod.mk.injEq] at h
    rw [hd] at hl
    obtain ⟨-, rfl⟩ := h
    have : 0 < ds'.length := List.length_pos_iff.2 (by rintro rfl; simp_all)
    simp only at hl; omega

theorem length_readFraction {cs rest : List Char} {f : Option (List Nat)}
    (h : readFraction cs = some (f, rest)) : rest.length ≤ cs.length := by
  unfold readFraction at h
  split at h
  · next cs' =>
    have hl := length_digits cs'
    split at h
    · simp at h
    · next ds r _ hd =>
      simp only [Option.some.injEq, Prod.mk.injEq] at h
      rw [hd] at hl
      obtain ⟨-, rfl⟩ := h
      simp only at hl
      simp only [List.length_cons]; omega
  · simp only [Option.some.injEq, Prod.mk.injEq] at h
    simp [h.2]

theorem length_exponentSign (cs : List Char) : (exponentSign cs).2.length ≤ cs.length := by
  unfold exponentSign
  split <;> simp

theorem length_readExponent {cs rest : List Char} {e : Option (Bool × List Nat)}
    (h : readExponent cs = some (e, rest)) : rest.length ≤ cs.length := by
  unfold readExponent at h
  split at h
  · simp only [Option.some.injEq, Prod.mk.injEq] at h; simp [← h.2]
  · next c tail =>
    split at h
    · have hl := length_digits (exponentSign tail).2
      have hs := length_exponentSign tail
      split at h
      · simp at h
      · next ds r _ hd =>
        simp only [Option.some.injEq, Prod.mk.injEq] at h
        rw [hd] at hl
        obtain ⟨-, rfl⟩ := h
        simp only at hl
        simp only [List.length_cons]; omega
    · simp only [Option.some.injEq, Prod.mk.injEq] at h
      simp [← h.2]

theorem length_readUnsigned {negative : Bool} {cs rest : List Char} {n : NumberLiteral}
    (h : readUnsigned negative cs = some (n, rest)) : rest.length < cs.length := by
  unfold readUnsigned at h
  split at h
  · simp at h
  · next hw =>
    split at h
    · simp at h
    · next hf =>
      split at h
      · simp at h
      · next he =>
        simp only [Option.some.injEq, Prod.mk.injEq] at h
        have := length_readWhole hw
        have := length_readFraction hf
        have := length_readExponent he
        rw [← h.2]; omega

theorem length_readNumber {cs rest : List Char} {n : NumberLiteral}
    (h : readNumber cs = some (n, rest)) : rest.length < cs.length := by
  unfold readNumber at h
  split at h
  · have := length_readUnsigned h
    simp only [List.length_cons]; omega
  · exact length_readUnsigned h

end ExecutionLink.Json
