/-
Latency buckets.

Increasing bounds cut the 64-bit numbers into one interval more than there are
bounds, each bound belonging to the interval below it.  `bucketIndex` says in
which interval a duration falls, and `intervals` gives the intervals
themselves, in order, with the labels under which they are exported.
-/
import ExecutionLink.Text.Natural

namespace ExecutionLink

/-- The number of the bucket that a duration falls into: how many of the
increasing bounds it is beyond. -/
def bucketIndex (bounds : List UInt64) (duration : UInt64) : Nat :=
  (bounds.takeWhile (· < duration)).length

/-! ### Bounds -/

/-- The upper bounds of all buckets but the last. -/
structure Bounds where
  values : List UInt64
  increasing : values.Pairwise (· < ·)
  deriving DecidableEq

namespace Bounds

/-- Puts a bound in its place, once. -/
def insert (b : UInt64) : List UInt64 → List UInt64
  | [] => [b]
  | c :: cs => if b < c then b :: c :: cs else if b = c then c :: cs else c :: insert b cs

theorem mem_insert {a b : UInt64} {bs : List UInt64} : a ∈ insert b bs ↔ a = b ∨ a ∈ bs := by
  induction bs with
  | nil => simp [insert]
  | cons c cs ih =>
    unfold insert
    split
    · simp
    · split
      · rename_i h
        simp [h]
      · simp only [List.mem_cons, ih]
        grind

theorem pairwise_insert {b : UInt64} {bs : List UInt64} (h : bs.Pairwise (· < ·)) :
    (insert b bs).Pairwise (· < ·) := by
  induction bs with
  | nil => simp [insert]
  | cons c cs ih =>
    obtain ⟨hc, hcs⟩ := List.pairwise_cons.mp h
    unfold insert
    split
    · rename_i hb
      refine List.pairwise_cons.mpr ⟨fun a ha => ?_, h⟩
      rcases List.mem_cons.mp ha with rfl | ha
      · exact hb
      · exact UInt64.lt_trans hb (hc a ha)
    · rename_i hb
      split
      · exact h
      · rename_i hne
        refine List.pairwise_cons.mpr ⟨fun a ha => ?_, ih hcs⟩
        rcases mem_insert.mp ha with rfl | ha
        · exact UInt64.lt_of_le_of_ne (UInt64.not_lt.mp hb) fun hac => hne hac.symm
        · exact hc a ha

/-- The bounds in a list of any order, each once. -/
def sort : List UInt64 → List UInt64
  | [] => []
  | b :: bs => insert b (sort bs)

theorem pairwise_sort (bs : List UInt64) : (sort bs).Pairwise (· < ·) := by
  induction bs with
  | nil => exact .nil
  | cons b bs ih => exact pairwise_insert ih

theorem mem_sort {a : UInt64} {bs : List UInt64} : a ∈ sort bs ↔ a ∈ bs := by
  induction bs with
  | nil => simp [sort]
  | cons b bs ih => simp [sort, mem_insert, ih]

/-- The bounds in a list of any order, each once. -/
def ofList (bs : List UInt64) : Bounds :=
  ⟨sort bs, pairwise_sort bs⟩

end Bounds

/-! ### Intervals -/

/-- The durations of one bucket. -/
inductive Interval where
  /-- From zero up to and including a bound. -/
  | upTo (upper : UInt64)
  /-- Above one bound, up to and including the next. -/
  | between (lower upper : UInt64)
  /-- Above a bound, without an end. -/
  | above (lower : UInt64)
  deriving Repr, DecidableEq

namespace Interval

/-- The label: a square bracket where the end belongs to the interval and a
round one where it does not. -/
def label : Interval → String
  | .upTo upper => s!"[0,{Text.Natural.render upper}]"
  | .between lower upper => s!"({Text.Natural.render lower},{Text.Natural.render upper}]"
  | .above lower => s!"({Text.Natural.render lower},+inf)"

/-- What belongs to an interval. -/
def Contains : Interval → UInt64 → Prop
  | .upTo upper, d => d ≤ upper
  | .between lower upper, d => lower < d ∧ d ≤ upper
  | .above lower, d => lower < d

instance (i : Interval) (d : UInt64) : Decidable (i.Contains d) := by
  cases i <;> unfold Contains <;> infer_instance

/-- The intervals above `lower` that the bounds cut. -/
def beyond (lower : UInt64) : List UInt64 → List Interval
  | [] => [.above lower]
  | b :: bs => .between lower b :: beyond b bs

/-- The intervals that the bounds cut. The last one is written as above zero if
there is no bound at all. -/
def cut : List UInt64 → List Interval
  | [] => [.above 0]
  | b :: bs => .upTo b :: beyond b bs

end Interval

/-- The intervals of the buckets. -/
def Bounds.intervals (b : Bounds) : List Interval :=
  Interval.cut b.values

theorem Interval.length_beyond (lower : UInt64) (bs : List UInt64) :
    (beyond lower bs).length = bs.length + 1 := by
  induction bs generalizing lower with
  | nil => rfl
  | cons b bs ih => simp [beyond, ih]

theorem Bounds.length_intervals (b : Bounds) : b.intervals.length = b.values.length + 1 := by
  unfold intervals
  cases b.values with
  | nil => rfl
  | cons c cs => simp [Interval.cut, Interval.length_beyond]

/-- Every duration has a bucket. -/
theorem bucketIndex_lt (b : Bounds) (d : UInt64) :
    bucketIndex b.values d < b.intervals.length := by
  rw [b.length_intervals, bucketIndex]
  exact Nat.lt_succ_of_le (List.takeWhile_sublist _).length_le

end ExecutionLink
