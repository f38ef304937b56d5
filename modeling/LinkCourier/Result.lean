/-!
What calls come to that may panic. Sums are checked: one that does not fit its width is no number,
and the call that makes it does not go on.
-/

namespace LinkCourier

/-- What a call comes to: an error or a value, unless it panics and nothing comes back. -/
inductive Result (ε α : Type) where
  | error (e : ε)
  | ok (a : α)
  | panicked
  deriving DecidableEq, Repr

namespace Result

variable {ε α β : Type}

/-- What a call comes to that cannot panic. -/
def ofExcept : Except ε α → Result ε α
  | .error e => .error e
  | .ok a => .ok a

/-- One call after another, which is only made with a value. -/
def bind (r : Result ε α) (f : α → Result ε β) : Result ε β :=
  match r with
  | .error e => .error e
  | .ok a => f a
  | .panicked => .panicked

@[simp] theorem ofExcept_inj {r s : Except ε α} : ofExcept r = ofExcept s ↔ r = s := by
  cases r <;> cases s <;> simp [ofExcept]

end Result

end LinkCourier
