/-
Durations in words: whole milliseconds below a second, and otherwise seconds
with as many decimal places as are needed.
-/

namespace ExecutionLink.Text

/-- The digits of a fraction, with no zeros at the end. -/
def fractionDigits (cs : List Char) : List Char :=
  (cs.reverse.dropWhile (· = '0')).reverse

/-- A number below a thousand in three digits. -/
def threeDigits (n : Nat) : List Char :=
  [n / 100, n / 10 % 10, n % 10].map fun d => Char.ofNat ('0'.toNat + d)

/-- A duration given in milliseconds. -/
def durationText (millis : Nat) : String :=
  if millis = 0 then "0ns"
  else if millis < 1000 then s!"{millis}ms"
  else
    let fraction := fractionDigits (threeDigits (millis % 1000))
    let places := String.ofList (if fraction.isEmpty then [] else '.' :: fraction)
    s!"{millis / 1000}{places}s"

end ExecutionLink.Text
