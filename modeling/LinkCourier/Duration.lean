import LinkCourier.Text.Decimal

/-!
Spans of time in milliseconds, and how they are written: nothing as `0ns`, less than a
second as whole milliseconds, all else in seconds with up to three places.
-/

namespace LinkCourier

structure Duration where
  millis : UInt64
  deriving DecidableEq, Repr

namespace Duration

/-- Three places of seconds, without the zeros at the end. -/
def places (ms : Nat) : Text :=
  let ds := [ms / 100 % 10, ms / 10 % 10, ms % 10].map Nat.digitChar
  (ds.reverse.dropWhile (· == '0')).reverse

def text (d : Duration) : Text :=
  let ms := d.millis.toNat
  if ms = 0 then "0ns".toList
  else if ms < 1000 then Decimal.digits ms ++ "ms".toList
  else match places (ms % 1000) with
    | [] => Decimal.digits (ms / 1000) ++ ['s']
    | ds => Decimal.digits (ms / 1000) ++ '.' :: ds ++ ['s']

end Duration

end LinkCourier
