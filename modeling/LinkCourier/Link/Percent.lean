import LinkCourier.Text.Basic

/-!
Percent-encoding, and the characters that each part of a link must have encoded.
-/

namespace LinkCourier.Percent

def hexDigit? (c : Char) : Option Nat :=
  if '0' ≤ c ∧ c ≤ '9' then some (c.toNat - '0'.toNat)
  else if 'a' ≤ c ∧ c ≤ 'f' then some (c.toNat - 'a'.toNat + 10)
  else if 'A' ≤ c ∧ c ≤ 'F' then some (c.toNat - 'A'.toNat + 10)
  else none

/-- The controls of ASCII, and everything that is not ASCII. -/
def isControl (c : Char) : Bool := c < ' ' || '\x7e' < c

def inFragment (c : Char) : Bool := isControl c || c ∈ [' ', '"', '<', '>', '\x60']

def inQuery (c : Char) : Bool := isControl c || c ∈ [' ', '"', '#', '<', '>', '\'']

def inPath (c : Char) : Bool := inFragment c || c ∈ ['#', '?', '\x7b', '\x7d']

def inUserinfo (c : Char) : Bool :=
  inPath c || c ∈ ['/', ':', ';', '=', '@', '[', '\\', ']', '^', '|']

def encodeByte (b : UInt8) : Text :=
  let digit (n : Nat) := (Nat.digitChar n).toUpper
  ['%', digit (b.toNat / 16), digit (b.toNat % 16)]

/-- Encodes the characters of a set. -/
def encode (inSet : Char → Bool) (t : Text) : Text :=
  t.flatMap fun c => if inSet c then (String.utf8EncodeChar c).flatMap encodeByte else [c]

/-- The bytes of a text in which a percent sign and two hexadecimal digits stand for a byte. -/
def decode : Text → Bytes
  | [] => []
  | '%' :: a :: b :: r =>
    match hexDigit? a, hexDigit? b with
    | some m, some n => (16 * m + n).toUInt8 :: decode r
    | _, _ => '%'.toUInt8 :: decode (a :: b :: r)
  | c :: r => String.utf8EncodeChar c ++ decode r

end LinkCourier.Percent
