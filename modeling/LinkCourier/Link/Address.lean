import LinkCourier.Link.Percent
import LinkCourier.Text.Decimal

/-!
Internet addresses as hosts. An address of the fourth version has one to four numbers, the
last of which fills all bytes that are left; one of the sixth version has eight pieces of
sixteen bits, of which one run of zeros may be left out.
-/

namespace LinkCourier.Address

/-! ### Version 4 -/

def numberIn (base : Nat) (t : Text) : Option Nat :=
  t.foldl (fun acc c => match acc, Percent.hexDigit? c with
    | some n, some d => if d < base then some (base * n + d) else none
    | _, _ => none) (some 0)

/-- A number in base 10, in base 8 after a zero, or in base 16 after `0x`. Nothing at all
after these marks is zero. -/
def number? (t : Text) : Option Nat :=
  match t with
  | [] => none
  | '0' :: x :: r => if x = 'x' ∨ x = 'X' then numberIn 16 r else numberIn 8 (x :: r)
  | _ => numberIn 10 t

/-- The pieces between dots, without an empty one at the end. -/
def parts (host : Text) : List Text :=
  let ps := host.splitOn '.'
  if ps.getLast? = some [] then ps.dropLast else ps

/-- The last piece of the host is a number, so that the host must be an address. -/
def endsInNumber (host : Text) : Bool :=
  match (parts host).getLast? with
  | none => false
  | some p => Decimal.IsDigits p || (number? p).isSome

/-- The value of the numbers in front of the last one. -/
def lead (ns : List Nat) : Nat :=
  ns.zipIdx.foldl (fun sum (n, i) => sum + n * Nat.pow 256 (3 - i)) 0

def v4? (host : Text) : Option Nat :=
  let ps := parts host
  match ps.mapM number? with
  | none => none
  | some ns => match ns.getLast? with
    | none => none
    | some last =>
      let front := ns.dropLast
      if ns.length ≤ 4 ∧ last < Nat.pow 256 (4 - front.length) ∧ front.all (· < 256) then
        some (lead front + last)
      else none

def v4Text (n : Nat) : Text :=
  let bytes := [n / 0x1000000, n / 0x10000 % 256, n / 0x100 % 256, n % 256]
  List.intercalate ['.'] (bytes.map Decimal.digits)

/-! ### Version 6 -/

def piece? (t : Text) : Option Nat :=
  if t ≠ [] ∧ t.length ≤ 4 then numberIn 16 t else none

/-- A decimal below 256 without a zero in front. -/
def octet? (t : Text) : Option Nat :=
  if Decimal.IsDigits t ∧ (t.head? = some '0' → t = ['0']) ∧ Decimal.value t < 256 then
    some (Decimal.value t)
  else none

/-- Four decimals in the place of the last two pieces. -/
def dotted? (t : Text) : Option (List Nat) :=
  match (t.splitOn '.').mapM octet? with
  | some [a, b, c, d] => some [256 * a + b, 256 * c + d]
  | _ => none

/-- The pieces between colons; the last one may be dotted if nothing follows. -/
def pieces? (last : Bool) (t : Text) : Option (List Nat) :=
  if t = [] then some []
  else
    let gs := t.splitOn ':'
    match gs.getLast? with
    | none => none
    | some g =>
      if last ∧ '.' ∈ g then do
        let front ← gs.dropLast.mapM piece?
        let back ← dotted? g
        return front ++ back
      else gs.mapM piece?

/-- Cuts a text at its first two colons in a row. -/
def cutGap? : Text → Option (Text × Text)
  | ':' :: ':' :: r => some ([], r)
  | c :: r => (cutGap? r).map fun (a, b) => (c :: a, b)
  | [] => none

def v6? (t : Text) : Option (List Nat) :=
  match cutGap? t with
  | none => do
    let ps ← pieces? true t
    if ps.length = 8 then some ps else none
  | some (a, b) => do
    let front ← pieces? false a
    let back ← pieces? true b
    if front.length + back.length ≤ 7 then
      some (front ++ List.replicate (8 - front.length - back.length) 0 ++ back)
    else none

/-- How many zeros stand at each place and after it, in a row. -/
def zeroRuns : List Nat → List Nat
  | [] => []
  | p :: ps =>
    let r := zeroRuns ps
    (if p = 0 then r.headD 0 + 1 else 0) :: r

def hex (n : Nat) : Text := Nat.toDigits 16 n

/-- The first of the longest runs of zeros is left out, if it is longer than one. -/
def v6Text (ps : List Nat) : Text :=
  let runs := zeroRuns ps
  let longest := runs.foldl max 0
  let join (ps : List Nat) := List.intercalate [':'] (ps.map hex)
  if longest < 2 then join ps
  else
    let i := runs.idxOf longest
    join (ps.take i) ++ "::".toList ++ join (ps.drop (i + longest))

end LinkCourier.Address
