import LinkCourier.Text.Basic
import LinkCourier.Text.Unprintable

/-!
Texts in double quotes, with escapes for quotes, backslashes and everything that does not
show.
-/

namespace LinkCourier.Quoted

def isUnprintable (c : Char) : Bool := Runs.has Unprintable.runs c.toNat

def escape (c : Char) : Text :=
  if c = '\x00' then ['\\', '0']
  else if c = '\t' then ['\\', 't']
  else if c = '\r' then ['\\', 'r']
  else if c = '\n' then ['\\', 'n']
  else if c = '"' ∨ c = '\\' then ['\\', c]
  else if isUnprintable c then
    ['\\', 'u', '\x7b'] ++ Nat.toDigits 16 c.toNat ++ ['\x7d']
  else [c]

def quote (t : Text) : Text := '"' :: t.flatMap escape ++ ['"']

end LinkCourier.Quoted
