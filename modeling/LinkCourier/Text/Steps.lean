/-!
Step tables: each entry gives the value from a number on, until the next entry.
-/

namespace LinkCourier.Steps

/-- The value at `n` of a table in increasing order; before its first entry, `a`. -/
def value {α : Type} (a : α) : List (Nat × α) → Nat → α
  | [], _ => a
  | (k, b) :: rest, n => if n < k then a else value b rest n

end LinkCourier.Steps
