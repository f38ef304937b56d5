import LinkCourier.Text.Basic
import LinkCourier.Text.Combining

/-!
Composed texts: every mark is in its place, and characters that are one together are
written as one.
-/

namespace LinkCourier.Composed

/-! ### Syllables, which are composed by arithmetic -/

def leads : Nat := 19
def vowels : Nat := 21
def tails : Nat := 28

def firstLead : Nat := 0x1100
def firstVowel : Nat := 0x1161

/-- What would be the tail of a syllable without one. -/
def noTail : Nat := 0x11A7

def firstSyllable : Nat := 0xAC00

def isSyllable (n : Nat) : Bool :=
  firstSyllable ≤ n && n < firstSyllable + leads * vowels * tails

/-- The syllable of two letters, or of a syllable without a tail and a tail. -/
def syllable? (a b : Nat) : Option Nat :=
  if firstLead ≤ a ∧ a < firstLead + leads ∧ firstVowel ≤ b ∧ b < firstVowel + vowels then
    some (firstSyllable + ((a - firstLead) * vowels + (b - firstVowel)) * tails)
  else if isSyllable a ∧ (a - firstSyllable) % tails = 0 ∧ noTail < b ∧ b < noTail + tails then
    some (a + (b - noTail))
  else none

/-- The letters of a syllable. -/
def letters (n : Nat) : List Nat :=
  let k := n - firstSyllable
  let tail := if k % tails = 0 then [] else [noTail + k % tails]
  [firstLead + k / (vowels * tails), firstVowel + k / tails % vowels] ++ tail

/-! ### Taking apart and putting together -/

/-- Takes a character apart by pairs of which one stands before those of its first character. -/
def parts : List (Nat × Nat × Nat) → Nat → List Nat
  | [], n => [n]
  | (a, b, c) :: rest, n => if n = c then parts rest a ++ [b] else parts rest n

def takeApart (c : Char) : Text :=
  let n := c.toNat
  (if isSyllable n then letters n else parts Combining.pairs n).map Char.ofNat

/-- The character that two are together. -/
def join? (c d : Char) : Option Char :=
  let (a, b) := (c.toNat, d.toNat)
  ((syllable? a b).or
    ((Combining.pairs.find? fun p => p.1 == a && p.2.1 == b).map (·.2.2))).map Char.ofNat

/-- Puts a mark in front of marks in their order; it goes behind those of lower classes. -/
def settle (c : Char) : Text → Text
  | [] => [c]
  | d :: r =>
    if 0 < Combining.order d ∧ Combining.order d < Combining.order c then d :: settle c r
    else c :: d :: r

/-- Marks in their order. -/
def arrange (t : Text) : Text := t.foldr settle []

/-- Puts together what starts with `c`. `marks` follow it and do not join it; a mark joins it
past marks of lower classes only. -/
def putTogether (c : Char) (marks : Text) : Text → Text
  | [] => c :: marks
  | d :: r =>
    let kept := marks.getLast?.any fun m => Combining.order d ≤ Combining.order m
    match if kept then none else join? c d with
    | some e => putTogether e marks r
    | none =>
      if Combining.order d = 0 then c :: marks ++ putTogether d [] r
      else putTogether c (marks ++ [d]) r

/-- The composed form of a text. -/
def ofText (t : Text) : Text :=
  match arrange (t.flatMap takeApart) with
  | [] => []
  | c :: r => putTogether c [] r

end LinkCourier.Composed
