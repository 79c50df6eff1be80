/-
What the single formats read.
-/
import ExecutionLink.Proofs.Json.Records

namespace ExecutionLink.Json.Format

variable {room : Nat} {t : Tree}

theorem decodeText_eq_ok {s : String} :
    decodeText t = .ok s ↔ ∃ l, t = .string l ∧ text? l = some s := by
  cases t with
  | string l => cases h : text? l <;> simp [decodeText, h]
  | _ => simp [decodeText]

theorem decodeNumber_eq_ok {expected : String} {n : Number} :
    decodeNumber expected t = .ok n ↔ ∃ l, t = .number l ∧ Number.ofLiteral? l = some n := by
  cases t with
  | number l => cases h : Number.ofLiteral? l <;> simp [decodeNumber, h]
  | _ => simp [decodeNumber]

theorem decode_natural16_eq_ok {n : Nat} :
    natural16.decode room t = .ok n ↔
      ∃ l v, t = .number l ∧ Number.ofLiteral? l = some (.natural v) ∧ v.toNat < 65536 ∧
        n = v.toNat := by
  simp only [natural16, bind_eq_ok, decodeNumber_eq_ok]
  constructor
  · rintro ⟨v, ⟨l, rfl, hl⟩, hv⟩
    cases v with
    | natural v =>
      by_cases hlt : v.toNat < 65536
      · simp only [if_pos hlt] at hv
        cases hv
        exact ⟨l, v, rfl, hl, hlt, rfl⟩
      · simp only [if_neg hlt] at hv
        cases hv
    | _ => cases hv
  · rintro ⟨l, v, rfl, hl, hlt, rfl⟩
    exact ⟨.natural v, ⟨l, rfl, hl⟩, if_pos hlt⟩

theorem decode_any_eq_ok {v : Value} :
    any.decode room t = .ok v ↔ t.value? room = some v := by
  simp only [any]
  cases t.value? room <;> simp

/-- Null is no value, whatever the format makes of it. -/
theorem decode_optional_eq_ok {α : Type} {f : Format α} {o : Option α} :
    f.optional.decode room t = .ok o ↔
      (t = .null ∧ o = none) ∨ ∃ a, t ≠ .null ∧ f.decode room t = .ok a ∧ o = some a := by
  by_cases hnull : t = .null
  · subst hnull
    simp [optional, eq_comm]
  · have hdecode : f.optional.decode room t = (f.decode room t).map some := by
      cases t with
      | null => exact absurd rfl hnull
      | _ => rfl
    rw [hdecode, map_eq_ok]
    simp only [hnull, false_and, false_or, ne_eq, not_false_eq_true, true_and]
    exact exists_congr fun a => and_congr_right fun _ => eq_comm

end ExecutionLink.Json.Format
