/-
How the registered counters come to be written.

A registry hands out its families of counters, and a writer puts them down one after
another.  The writer refuses a family that has no counters or no name, as its lines would
say nothing; so the registry keeps back a family that has no counters yet.
-/
import ExecutionLink.Metrics.Registry

namespace ExecutionLink

/-- The families that are handed out to be written. -/
def MetricsRegistry.gather (r : MetricsRegistry) : List CounterMatrix :=
  r.matrices.filter fun m => m.family.counters.entries ≠ []

namespace Exposition

/-- Why a family is not written. -/
inductive Refusal where
  | noCounters
  | noName
  deriving Repr, DecidableEq

/-- The lines of a family, unless it is refused. -/
def familyLines (m : CounterMatrix) : Except Refusal (List String) :=
  if m.family.counters.entries = [] then .error .noCounters
  else if m.name = "" then .error .noName
  else .ok (lines m)

/-- The text of families; none of it is written if one of them is refused. -/
def write (ms : List CounterMatrix) : Except Refusal String := do
  let families ← ms.mapM familyLines
  return String.join (families.flatten.map (· ++ "\n"))

/-! ### Nothing is refused -/

/-- Families with counters and names are written as their lines. -/
theorem mapM_familyLines {ms : List CounterMatrix}
    (h : ∀ m ∈ ms, m.family.counters.entries ≠ [] ∧ m.name ≠ "") :
    ms.mapM familyLines = .ok (ms.map lines) := by
  induction ms with
  | nil => rfl
  | cons m ms ih =>
    obtain ⟨hcounters, hname⟩ := h m List.mem_cons_self
    have hfirst : familyLines m = .ok (lines m) := by
      rw [familyLines, if_neg hcounters, if_neg hname]
    rw [List.mapM_cons, hfirst, ih fun n hn => h n (List.mem_cons_of_mem m hn)]
    rfl

/-- The lines of several families are the text of one after the text of another. -/
theorem join_lines (ms : List CounterMatrix) :
    String.join ((ms.map lines).flatten.map (· ++ "\n")) = String.join (ms.map text) := by
  induction ms with
  | nil => rfl
  | cons m ms ih =>
    rw [List.map_cons, List.flatten_cons, List.map_append, String.join_append, ih, List.map_cons,
      String.join_cons, text]

/-- A family without counters adds nothing to a text. -/
theorem join_filter (ms : List CounterMatrix) :
    String.join ((ms.filter fun m => m.family.counters.entries ≠ []).map text) =
      String.join (ms.map text) := by
  induction ms with
  | nil => rfl
  | cons m ms ih =>
    by_cases hempty : m.family.counters.entries = []
    · have htext : text m = "" := by
        rw [text, lines, hempty]
        rfl
      rw [List.filter_cons_of_neg (by simp [hempty]), ih, List.map_cons, String.join_cons, htext,
        String.empty_append]
    · rw [List.filter_cons_of_pos (by simp [hempty]), List.map_cons, List.map_cons,
        String.join_cons, String.join_cons, ih]

/-- Nothing that a registry hands out is refused, and the text is the one that is shown. -/
theorem write_gather {r : MetricsRegistry} (h : ∀ m ∈ r.matrices, m.name ≠ "") :
    write r.gather = .ok r.render := by
  have hlines : r.gather.mapM familyLines = .ok (r.gather.map lines) := by
    refine mapM_familyLines fun m hm => ?_
    obtain ⟨hmem, hcounters⟩ := List.mem_filter.mp hm
    exact ⟨of_decide_eq_true hcounters, h m hmem⟩
  rw [write, hlines]
  show Except.ok (String.join ((r.gather.map lines).flatten.map (· ++ "\n"))) = _
  rw [join_lines, MetricsRegistry.gather, join_filter]
  rfl

end Exposition

end ExecutionLink
