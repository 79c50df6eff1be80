/-
The ASCII form of an international domain label.

The form lists the label's ASCII characters, then a hyphen, then a run of
insertions.  Each insertion is a number in digits of base 36 whose weights depend
on a bias; divided by the length so far it says by how much the code point grows,
and the remainder is the place where it is inserted.
-/

namespace ExecutionLink.Url.Punycode

/-- The value of a digit: letters first, in either case, then numerals. -/
def digit? (c : Char) : Option Nat :=
  let n := c.toNat
  if 0x61 ≤ n ∧ n ≤ 0x7A then some (n - 0x61)
  else if 0x41 ≤ n ∧ n ≤ 0x5A then some (n - 0x41)
  else if 0x30 ≤ n ∧ n ≤ 0x39 then some (n - 0x30 + 26)
  else none

/-- The value from which on a digit at place `k` is followed by another one. -/
def threshold (k bias : Nat) : Nat :=
  if k ≤ bias then 1 else if bias + 26 ≤ k then 26 else k - bias

/-- Divides by 35 until the number is at most 455; gives 36 for each division. -/
def damp (delta k : Nat) : Nat × Nat :=
  if 455 < delta then damp (delta / 35) (k + 36) else (delta, k)
termination_by delta
decreasing_by exact Nat.div_lt_self (by omega) (by omega)

/-- The bias after an insertion of `delta` that made the label `length` long. -/
def adapt (delta length : Nat) (first : Bool) : Nat :=
  let halved := if first then delta / 700 else delta / 2
  let (d, k) := damp (halved + halved / length) 0
  k + 36 * d / (d + 38)

/-- Reads one number and adds it to `sum`. -/
def readNumber (bias : Nat) : List Char → (k weight sum : Nat) → Option (Nat × List Char)
  | [], _, _, _ => none
  | c :: cs, k, weight, sum =>
    match digit? c with
    | none => none
    | some d =>
      let t := threshold k bias
      if d < t then some (sum + d * weight, cs)
      else readNumber bias cs (k + 36) (weight * (36 - t)) (sum + d * weight)

theorem length_readNumber {bias k weight sum n : Nat} {cs rest : List Char}
    (h : readNumber bias cs k weight sum = some (n, rest)) : rest.length < cs.length := by
  induction cs generalizing k weight sum with
  | nil => simp [readNumber] at h
  | cons c cs ih =>
    rw [readNumber] at h
    split at h
    · simp at h
    · dsimp only at h
      split at h
      · simp only [Option.some.injEq, Prod.mk.injEq] at h
        simp [h.2]
      · have := ih h
        simp only [List.length_cons]; omega

/-- Carries out the insertions, the next one at code point `n` or later. -/
def insertAll (cs : List Char) (n i bias : Nat) (label : List Char) : Option (List Char) :=
  match cs with
  | [] => some label
  | c :: rest =>
    match _h : readNumber bias (c :: rest) 36 1 i with
    | none => none
    | some (j, cs') =>
      let length := label.length + 1
      let point := n + j / length
      let place := j % length
      if point < 0x110000 ∧ ¬(0xD800 ≤ point ∧ point < 0xE000) then
        insertAll cs' point (place + 1) (adapt (j - i) length (i = 0 ∧ n = 0x80))
          (label.take place ++ Char.ofNat point :: label.drop place)
      else none
termination_by cs.length
decreasing_by exact length_readNumber (by assumption)

/-- The label whose ASCII form (behind its marker) is `cs`. -/
def decode (cs : List Char) : Option (List Char) :=
  match (cs.reverse.span (· ≠ '-')) with
  | (tail, _ :: basic) => insertAll tail.reverse 0x80 0 72 basic.reverse
  | (_, []) => insertAll cs 0x80 0 72 []

/-! ### Writing -/

/-- The digit with a value. -/
def digit (d : Nat) : Char :=
  if d < 26 then Char.ofNat (0x61 + d) else Char.ofNat (0x30 + (d - 26))

theorem threshold_pos (k bias : Nat) : 0 < threshold k bias := by
  unfold threshold; split
  · omega
  · split <;> omega

/-- Writes a number whose first digit is at place `k`. -/
def numberDigits (bias n k : Nat) : List Char :=
  let t := threshold k bias
  if n < t then [digit n]
  else digit (t + (n - t) % (36 - t)) :: numberDigits bias ((n - t) / (36 - t)) (k + 36)
termination_by n
decreasing_by
  have := threshold_pos k bias
  have := Nat.div_le_self (n - threshold k bias) (36 - threshold k bias)
  omega

/-- How far the form of a label is written: the number that the next insertion
starts from, the bias, the number of characters that are in place, and the digits so
far, latest first. -/
structure Written where
  delta : Nat
  bias : Nat
  placed : Nat
  digits : List Char

/-- Writes the insertions of one code point. `basic` is the number of ASCII
characters. -/
def writePoint (basic point : Nat) (w : Written) (label : List Char) : Written :=
  label.foldl (fun w c =>
    if c.toNat < point then { w with delta := w.delta + 1 }
    else if c.toNat = point then
      { delta := 0
        bias := adapt w.delta (w.placed + 1) (w.placed = basic)
        placed := w.placed + 1
        digits := (numberDigits w.bias w.delta 36).reverse ++ w.digits }
    else w) w

/-- Writes the insertions of code points in increasing order, all of which are at
least `next`. -/
def writeAll (basic next : Nat) (w : Written) (label : List Char) : List Nat → Written
  | [] => w
  | point :: points =>
    let w := { w with delta := w.delta + (point - next) * (w.placed + 1) }
    let w := writePoint basic point w label
    writeAll basic (point + 1) { w with delta := w.delta + 1 } label points

/-- The ASCII form of a label, without a marker. -/
def encode (label : List Char) : List Char :=
  let basic := label.filter (·.toNat < 0x80)
  let points := ((label.map (·.toNat)).filter (0x80 ≤ ·)).mergeSort.eraseDups
  let w := writeAll basic.length 0x80 ⟨0, 72, basic.length, []⟩ label points
  basic ++ (if basic.isEmpty then [] else ['-']) ++ w.digits.reverse

end ExecutionLink.Url.Punycode
