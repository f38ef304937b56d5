import LinkCourier.Text.Basic

/-!
Decimal numbers: the digits of a number, and reading a number below a bound.
-/

namespace LinkCourier.Decimal

def digits (n : Nat) : Text := Nat.toDigits 10 n

/-- The value of a string of digits. -/
def value (t : Text) : Nat := t.foldl (fun n c => 10 * n + (c.toNat - '0'.toNat)) 0

/-- One digit or more. -/
def IsDigits (t : Text) : Prop := t ≠ [] ∧ ∀ c ∈ t, c.isDigit

instance (t : Text) : Decidable (IsDigits t) :=
  decidable_of_iff (t ≠ [] ∧ t.all Char.isDigit) (by simp [IsDigits])

theorem value_digits (n : Nat) : value (digits n) = n :=
  Nat.ofDigitChars_toDigits (by decide) (by decide)

theorem isDigits_digits (n : Nat) : IsDigits (digits n) :=
  ⟨Nat.toDigits_ne_nil, fun _ hc => Nat.isDigit_of_mem_toDigits (by decide) (by decide) hc⟩

/-- What begins with a number that is followed by no digit tells the number. -/
theorem digits_append_inj {m n : Nat} {c : Char} {t u : Text} (hc : ¬ c.isDigit)
    (h : digits m ++ c :: t = digits n ++ c :: u) : m = n ∧ t = u := by
  have hcut (n : Nat) (t : Text) : (digits n ++ c :: t).takeWhile Char.isDigit = digits n := by
    rw [List.takeWhile_append_of_pos (isDigits_digits n).2, List.takeWhile_cons_of_neg hc,
      List.append_nil]
  have hdigits : digits m = digits n := by
    rw [← hcut m t, h, hcut]
  rw [hdigits, List.append_cancel_left_eq] at h
  exact ⟨by rw [← value_digits m, hdigits, value_digits], (List.cons.inj h).2⟩

/-- One plus sign may stand in front of a number. -/
def unsign : Text → Text
  | '+' :: t => t
  | t => t

/-- Reads a number below the bound. -/
def readBelow (bound : Nat) (t : Text) : Option Nat :=
  let ds := unsign t
  if IsDigits ds ∧ value ds < bound then some (value ds) else none

end LinkCourier.Decimal
