import Mathlib.Data.Nat.Init
import LinkCourier.Text.Decimal

/-!
Numbers and their digits: what is read as a number, and that a written number is read as itself.
-/

namespace LinkCourier.Decimal

variable {bound n : ℕ} {t ds : Text}

lemma notMem_digits {c : Char} (hc : c.isDigit = false) (n : ℕ) : c ∉ digits n := by
  intro h
  rw [(isDigits_digits n).2 c h] at hc
  cases hc

/-- Digits have no sign. -/
lemma unsign_of_isDigits (h : IsDigits ds) : unsign ds = ds := by
  obtain ⟨c, ds, rfl⟩ := List.exists_cons_of_ne_nil h.1
  have hc : c ≠ '+' := by
    rintro rfl
    exact absurd (h.2 '+' List.mem_cons_self) (by decide)
  unfold unsign
  split
  · rename_i heq
    exact absurd (List.cons.inj heq).1 hc
  · rfl

/-- **What is read as a number**: one digit or more, behind a plus sign or not. -/
lemma readBelow_eq_some_iff : readBelow bound t = some n ↔
    ∃ ds, (t = ds ∨ t = '+' :: ds) ∧ IsDigits ds ∧ value ds = n ∧ n < bound := by
  unfold readBelow
  simp only [Option.ite_none_right_eq_some, Option.some.injEq]
  constructor
  · rintro ⟨⟨hds, hlt⟩, rfl⟩
    refine ⟨unsign t, ?_, hds, rfl, hlt⟩
    unfold unsign
    split
    · exact .inr rfl
    · exact .inl rfl
  · rintro ⟨ds, rfl | rfl, hds, rfl, hlt⟩
    · rw [unsign_of_isDigits hds]
      exact ⟨⟨hds, hlt⟩, rfl⟩
    · exact ⟨⟨hds, hlt⟩, rfl⟩

/-- A number that is written is read as itself. -/
lemma readBelow_digits (h : n < bound) : readBelow bound (digits n) = some n :=
  readBelow_eq_some_iff.2 ⟨digits n, .inl rfl, isDigits_digits n, value_digits n, h⟩

end LinkCourier.Decimal
