/-
What trimming a text does.

A text is what is left of it with blanks on both sides (`Text.exists_pad`), and these
blanks alone are of no matter (`Text.trim_pad`).  What is left neither begins nor
ends with a blank (`Text.unpadded_trim`), and nothing is left exactly of the blank
texts (`Text.trim_eq_empty_iff_blank`).
-/
import ExecutionLink.Text.Blank
import Mathlib.Data.List.TakeWhile

namespace ExecutionLink.Text

/-- A text with nothing in it but blanks, if anything. -/
def Blank (s : String) : Prop := ∀ c ∈ s.toList, isBlank c

/-- A text that neither begins nor ends with a blank. -/
def Unpadded (s : String) : Prop :=
  (∀ c ∈ s.toList.head?, isBlank c = false) ∧ ∀ c ∈ s.toList.getLast?, isBlank c = false

variable {before after : List Char}

theorem trimmed_pad (hbefore : ∀ c ∈ before, isBlank c) (hafter : ∀ c ∈ after, isBlank c)
    (cs : List Char) : trimmed (before ++ cs ++ after) = trimmed cs := by
  have hreverse : ∀ c ∈ after.reverse, isBlank c := fun c hc =>
    hafter c (List.mem_reverse.mp hc)
  rw [trimmed, trimmed, List.append_assoc, List.dropWhile_append_of_pos hbefore,
    List.dropWhile_append]
  split
  · -- Nothing but blanks is left of `cs`, so nothing is left of the blanks after it.
    rename_i hempty
    have hcs : cs.dropWhile isBlank = [] := List.isEmpty_iff.mp hempty
    have hnil : after.dropWhile isBlank = [] := List.dropWhile_eq_nil_iff.mpr hafter
    rw [hcs, hnil]
  · rw [List.reverse_append, List.dropWhile_append_of_pos hreverse]

theorem trim_pad (hbefore : ∀ c ∈ before, isBlank c) (hafter : ∀ c ∈ after, isBlank c)
    (text : String) : trim (String.ofList (before ++ text.toList ++ after)) = trim text := by
  rw [trim, trim, String.toList_ofList, trimmed_pad hbefore hafter]

/-- What is trimmed away are blanks. -/
theorem exists_pad (cs : List Char) : ∃ before after : List Char,
    (∀ c ∈ before, isBlank c) ∧ (∀ c ∈ after, isBlank c) ∧
      before ++ trimmed cs ++ after = cs := by
  refine ⟨cs.takeWhile isBlank, ((cs.dropWhile isBlank).reverse.takeWhile isBlank).reverse,
    fun c hc => List.mem_takeWhile_imp hc,
    fun c hc => List.mem_takeWhile_imp (List.mem_reverse.mp hc), ?_⟩
  rw [trimmed, List.append_assoc, ← List.reverse_append, List.takeWhile_append_dropWhile,
    List.reverse_reverse, List.takeWhile_append_dropWhile]

theorem trim_trim (text : String) : trim (trim text) = trim text := by
  obtain ⟨before, after, hbefore, hafter, heq⟩ := exists_pad text.toList
  have htrimmed : trimmed (trimmed text.toList) = trimmed text.toList := by
    rw [← trimmed_pad hbefore hafter (trimmed text.toList), heq]
  rw [trim, toList_trim, htrimmed, trim]

/-- Nothing is left of a text exactly if it is blank all through. -/
theorem trim_eq_empty {s : String} : trim s = "" ↔ s.toList.all isBlank := by
  rw [List.all_eq_true, ← String.toList_inj, toList_trim, trimmed, String.toList_empty,
    List.reverse_eq_nil_iff, List.dropWhile_eq_nil_iff]
  simp only [List.mem_reverse]
  constructor
  · intro h c hc
    rw [← List.takeWhile_append_dropWhile (p := isBlank) (l := s.toList), List.mem_append] at hc
    exact hc.elim List.mem_takeWhile_imp (h c)
  · intro h c hc
    exact h c ((List.dropWhile_suffix isBlank).subset hc)

theorem trim_eq_empty_iff_blank {s : String} : trim s = "" ↔ Blank s := by
  rw [trim_eq_empty, List.all_eq_true]
  rfl

theorem isBlank_of_mem_head?_dropWhile (cs : List Char) :
    ∀ c ∈ (cs.dropWhile isBlank).head?, isBlank c = false := by
  intro c hc
  have hhead := List.head?_dropWhile_not isBlank cs
  rw [Option.mem_def.mp hc] at hhead
  simpa using hhead

theorem unpadded_trim (s : String) : Unpadded (trim s) := by
  rw [Unpadded, toList_trim]
  constructor
  · intro c hc
    -- the first character is left when the blanks before it are dropped
    have hprefix : trimmed s.toList <+: s.toList.dropWhile isBlank := by
      rw [trimmed, ← List.reverse_suffix, List.reverse_reverse]
      exact List.dropWhile_suffix isBlank
    obtain ⟨rest, hrest⟩ := hprefix
    refine isBlank_of_mem_head?_dropWhile s.toList c ?_
    rw [← hrest, List.head?_append, Option.mem_def.mp hc]
    rfl
  · intro c hc
    rw [trimmed, List.getLast?_reverse] at hc
    exact isBlank_of_mem_head?_dropWhile _ c hc

end ExecutionLink.Text
