import LinkCourier.Link.Percent
import LinkCourier.Text.Decimal
import LinkCourier.Toml.Scan

/-!
Numbers, dates and times.
-/

namespace LinkCourier.Toml

open Scan

/-! ### Dates and times -/

/-- A number of so many digits, from `lo` to `hi`. -/
def padded (n lo hi : Nat) : Scan Nat := do
  let v := Decimal.value (← exactly n Char.isDigit)
  when (lo ≤ v && v ≤ hi)
  return v

def isLeap (year : Nat) : Bool := year % 4 == 0 && (year % 100 != 0 || year % 400 == 0)

def daysIn (year month : Nat) : Nat :=
  if month = 2 then (if isLeap year then 29 else 28)
  else if month = 4 ∨ month = 6 ∨ month = 9 ∨ month = 11 then 30
  else 31

def date : Scan Unit := do
  let year ← padded 4 0 9999
  literal "-"
  let month ← padded 2 1 12
  literal "-"
  let _ ← padded 2 1 (daysIn year month)

/-- A second may be a leap second. -/
def time : Scan Unit := do
  let _ ← padded 2 0 23
  literal ":"
  let _ ← padded 2 0 59
  literal ":"
  let _ ← padded 2 0 60
  let _ ← maybe (literal "." *> run1 Char.isDigit)

def offset : Scan Unit :=
  (do let _ ← one fun c => c == 'Z' || c == 'z') <|> do
    let _ ← one fun c => c == '+' || c == '-'
    let _ ← padded 2 0 23
    literal ":"
    let _ ← padded 2 0 59

def moment : Scan Scalar := do
  (do
    date
    let _ ← maybe (do
      let _ ← one fun c => c == 'T' || c == 't' || c == ' '
      time
      maybe offset)) <|> time
  return .moment

/-! ### Numbers -/

/-- Digits with single underscores between them. -/
def grouped (p : Char → Bool) : Scan Text := do
  let first ← one p
  let rest ← many (one p <|> (literal "_" *> one p))
  return first :: rest

def sign : Scan Bool := do
  let s ← maybe (one fun c => c == '+' || c == '-')
  return s == some '-'

/-- Decimal digits without a zero in front of others. -/
def whole : Scan Text := do
  let t ← grouped Char.isDigit
  if t.head? = some '0' then failure else return t

def zero : Scan Text := do
  let c ← one (· == '0')
  return [c]

def wholeOrZero : Scan Text := whole <|> zero

def isBelow (base : Nat) (c : Char) : Bool :=
  match Percent.hexDigit? c with
  | some d => d < base
  | none => false

/-- A number in another base, without a sign. -/
def based (mark : String) (base : Nat) : Scan Nat := do
  literal mark
  let t ← grouped (isBelow base)
  return t.foldl (fun n c => base * n + (Percent.hexDigit? c).getD 0) 0

def inRange (i : Int) : Scan Scalar := do
  when (Int64.minValue.toInt ≤ i && i ≤ Int64.maxValue.toInt)
  return .integer i

/-- A whole number of 64 bits with a sign. -/
def integer : Scan Scalar := do
  let n ← maybe (based "0x" 16 <|> based "0o" 8 <|> based "0b" 2)
  match n with
  | some n => inRange n
  | none =>
    let negative ← sign
    let v : Int := Decimal.value (← wholeOrZero)
    inRange (if negative then -v else v)

/-- The number nearest to `m * 10 ^ e`. -/
def nearest (m : Nat) (e : Int) : Float :=
  let size : Int := (Decimal.digits m).length + e
  if m = 0 ∨ size < -400 then 0.0
  else if 400 < size then 1.0 / 0.0
  else Float.ofScientific m (e < 0) e.natAbs

/-- A number that is too large is refused, unless it is negative. -/
def float : Scan Scalar := do
  let negative ← sign
  let ip ← wholeOrZero
  let fp ← maybe (literal "." *> grouped Char.isDigit)
  let ep ← maybe (do
    let _ ← one fun c => c == 'e' || c == 'E'
    let negative ← sign
    let v : Int := Decimal.value (← grouped Char.isDigit)
    return if negative then -v else v)
  when (fp.isSome || ep.isSome)
  let fraction := fp.getD []
  let x := nearest (Decimal.value (ip ++ fraction)) (ep.getD 0 - fraction.length)
  when (negative || x.isFinite)
  return .float (if negative then -x else x)

def special : Scan Scalar := do
  let negative ← sign
  let x ← (do literal "inf"; return (1.0 / 0.0 : Float)) <|> (do literal "nan"; return 0.0 / 0.0)
  return .float (if negative then -x else x)

def boolean : Scan Scalar :=
  (do literal "true"; return .boolean true) <|> do literal "false"; return .boolean false

end LinkCourier.Toml
