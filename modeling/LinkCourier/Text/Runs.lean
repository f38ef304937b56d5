/-!
Classes of characters as lists of lengths: the length of a run of characters outside of the
class, then of a run inside of it, and so on from the first character.
-/

namespace LinkCourier.Runs

/-- Whether the runs have a code point inside. -/
def has : List Nat → Nat → Bool
  | outside :: inside :: rest, n =>
    if n < outside then false
    else if n < outside + inside then true
    else has rest (n - outside - inside)
  | _, _ => false

end LinkCourier.Runs
