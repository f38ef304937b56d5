import LinkCourier.Text.Decimal

/-!
The fewest decimal digits that read back as a binary floating-point number, in positional
notation.

A positive number is `m * 2 ^ q`; the reals that round to it reach half a step up, and half a
step down or a quarter of one below a power of two. For one digit, two digits and so on, the
two neighbours of the number on that decimal grid are tried; of two hits the nearer one
counts, and the upper one if they are equally near.
-/

namespace LinkCourier.Shortest

/-- A positive number and the ends of its interval, over one denominator; the ends count if
`closed` is set. -/
structure Scaled where
  num : Nat
  low : Nat
  high : Nat
  den : Nat
  closed : Bool

def Scaled.mulPow (s : Scaled) (e : Int) : Scaled :=
  if 0 ≤ e then
    let p := Nat.pow 10 e.toNat
    { s with num := s.num * p, low := s.low * p, high := s.high * p }
  else { s with den := s.den * Nat.pow 10 (-e).toNat }

def Scaled.holds (s : Scaled) (n : Nat) : Bool :=
  if s.closed then s.low ≤ n * s.den && n * s.den ≤ s.high
  else s.low < n * s.den && n * s.den < s.high

/-- The number `m * 2 ^ q`, where `narrow` says that the step below is half of the one above. -/
def scaled (m : Nat) (q : Int) (narrow : Bool) : Scaled :=
  let up := Nat.pow 2 q.toNat
  { num := 4 * m * up
    low := (4 * m - if narrow then 1 else 2) * up
    high := (4 * m + 2) * up
    den := 4 * Nat.pow 2 (-q).toNat
    closed := m % 2 == 0 }

/-- The least `k` with the number below `10 ^ k`. -/
def magnitude (s : Scaled) : Int :=
  let k : Int := (Decimal.digits s.num).length - (Decimal.digits s.den).length
  let t := s.mulPow (-k)
  if t.den ≤ t.num then k + 1 else k

/-- The digits on a grid of `n` places, if one of the two neighbours is a hit. -/
def onGrid (s : Scaled) (k : Int) (n : Nat) : Option Nat :=
  let t := s.mulPow (n - k)
  let below := t.num / t.den
  let above := below + 1
  match t.holds below, t.holds above with
  | true, true => some (if 2 * t.num < (below + above) * t.den then below else above)
  | true, false => some below
  | false, true => some above
  | false, false => none

/-- The first grid with a hit, and the digits on it; seventeen places always have one. -/
def search (s : Scaled) (k : Int) : Nat → Nat → Nat × Nat
  | 0, n => (n, 0)
  | left + 1, n => match onGrid s k n with
    | some d => (n, d)
    | none => search s k left (n + 1)

/-- Digits that begin `k` places in front of the point. -/
def positional (ds : Text) (k : Int) : Text :=
  if k ≤ 0 then "0.".toList ++ List.replicate (-k).toNat '0' ++ ds
  else
    let k := k.toNat
    if ds.length ≤ k then ds ++ List.replicate (k - ds.length) '0' ++ ".0".toList
    else ds.take k ++ '.' :: ds.drop k

/-- A hit at the upper end of its grid is a power of ten, with one digit more. -/
def positive (m : Nat) (q : Int) (narrow : Bool) : Text :=
  let s := scaled m q narrow
  let k := magnitude s
  let (n, d) := search s k 17 1
  let ds := Decimal.digits d
  positional (ds.reverse.dropWhile (· == '0')).reverse (k + ds.length - n)

/-- The bit in front of the fraction, which is not stored. -/
def hidden : Nat := 0x10000000000000

/-- A floating-point number; a whole number is written with one zero after the point. -/
def text (x : Float) : Text :=
  let bits := x.toBits.toNat
  let sign := if bits / hidden / 2048 = 1 then ['-'] else []
  let exponent : Nat := bits / hidden % 2048
  let fraction : Nat := bits % hidden
  if exponent = 2047 then
    if fraction = 0 then sign ++ "inf".toList else "NaN".toList
  else if exponent = 0 then
    if fraction = 0 then sign ++ "0.0".toList else sign ++ positive fraction (-1074) false
  else sign ++ positive (hidden + fraction) ((exponent : Int) - 1075) (fraction = 0 ∧ 1 < exponent)

end LinkCourier.Shortest
