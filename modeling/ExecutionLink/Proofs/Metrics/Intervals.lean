/-
The labels of the buckets tell them apart.

A label shows first of all where its interval starts: everything up to the comma
depends on the lower end alone (`takeWhile_label`), and no two of the intervals
that a list of bounds cuts have the same lower end.

* `Bounds.nodup_labels` — so their labels are all different.
-/
import ExecutionLink.Metrics.Interval
import ExecutionLink.Proofs.Text.Natural
import Mathlib.Data.List.Nodup

namespace ExecutionLink

namespace Interval

open Text.Natural

/-- The bound that an interval starts above, if it does not start at zero. -/
def lower? : Interval → Option UInt64
  | .upTo _ => none
  | .between lower _ | .above lower => some lower

/-- The characters of a label before the comma. -/
def opening : Option UInt64 → List Char
  | none => ['[', '0']
  | some lower => '(' :: Nat.toDigits 10 lower.toNat

theorem opening_injective {a b : Option UInt64} (h : opening a = opening b) : a = b := by
  cases a with
  | none =>
    cases b with
    | none => rfl
    | some m => cases h
  | some n =>
    cases b with
    | none => cases h
    | some m =>
      have hdigits : Nat.toDigits 10 n.toNat = Nat.toDigits 10 m.toNat := (List.cons.inj h).2
      rw [UInt64.toNat_inj.mp (toDigits_injective hdigits)]

theorem comma_notMem_opening (a : Option UInt64) : ',' ∉ opening a := by
  have hdigits (n : Nat) : ',' ∉ Nat.toDigits 10 n := notMem_toDigits (by decide) n
  cases a with
  | none => simp [opening]
  | some n => simp [opening, hdigits]

/-- No comma is met before the first one that is written. -/
theorem takeWhile_opening (a : Option UInt64) (cs : List Char) :
    (opening a ++ ',' :: cs).takeWhile (· ≠ ',') = opening a := by
  have hne : ∀ c ∈ opening a, decide (c ≠ ',') = true := fun c hc =>
    decide_eq_true (ne_of_mem_of_not_mem hc (comma_notMem_opening a))
  rw [List.takeWhile_append_of_pos hne]
  simp

/-- The characters of a label after the comma. -/
def closing : Interval → List Char
  | .upTo upper | .between _ upper => Nat.toDigits 10 upper.toNat ++ [']']
  | .above _ => ['+', 'i', 'n', 'f', ')']

theorem toList_label (i : Interval) : i.label.toList = opening i.lower? ++ ',' :: i.closing := by
  cases i with
  | upTo upper =>
    show ("[0," ++ upper.toNat.repr ++ "]").toList = _
    simp [lower?, opening, closing]
  | between lower upper =>
    show ("(" ++ lower.toNat.repr ++ "," ++ upper.toNat.repr ++ "]").toList = _
    simp [lower?, opening, closing]
  | above lower =>
    show ("(" ++ lower.toNat.repr ++ ",+inf)").toList = _
    simp [lower?, opening, closing]

theorem takeWhile_label (i : Interval) :
    i.label.toList.takeWhile (· ≠ ',') = opening i.lower? := by
  rw [toList_label, takeWhile_opening]

theorem lower?_eq_of_label_eq {i j : Interval} (h : i.label = j.label) : i.lower? = j.lower? := by
  apply opening_injective
  rw [← takeWhile_label, ← takeWhile_label, h]

theorem map_lower?_beyond (lower : UInt64) (bs : List UInt64) :
    (beyond lower bs).map lower? = (lower :: bs).map some := by
  induction bs generalizing lower with
  | nil => rfl
  | cons b bs ih => rw [beyond, List.map_cons, ih, List.map_cons (a := lower), lower?]

end Interval

namespace Bounds

theorem nodup_map_lower? (b : Bounds) : (b.intervals.map Interval.lower?).Nodup := by
  obtain ⟨bs, hbs⟩ := b
  cases bs with
  | nil => exact List.nodup_singleton _
  | cons b bs =>
    have hnodup : (b :: bs).Nodup := hbs.imp UInt64.ne_of_lt
    show (none :: (Interval.beyond b bs).map Interval.lower?).Nodup
    rw [Interval.map_lower?_beyond, List.nodup_cons]
    exact ⟨by simp, hnodup.map fun _ _ => Option.some.inj⟩

theorem nodup_labels (b : Bounds) : (b.intervals.map Interval.label).Nodup := by
  have h := b.nodup_map_lower?
  rw [List.Nodup, List.pairwise_map] at h ⊢
  exact h.imp fun hne heq => hne (Interval.lower?_eq_of_label_eq heq)

end Bounds

end ExecutionLink
