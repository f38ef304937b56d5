import LinkCourier.Text.Basic

/-!
Punycode: a text in the characters of ASCII. Its ASCII characters come first, and then, as
numbers, the gaps between the places where the others are put in, in the order of the
characters.
-/

namespace LinkCourier.Punycode

/-! ### Numbers of variable length -/

def digit (d : Nat) : Char :=
  Char.ofNat (if d < 26 then 'a'.toNat + d else '0'.toNat + d - 26)

def digitValue? (c : Char) : Option Nat :=
  if c.isLower then some (c.toNat - 'a'.toNat)
  else if c.isDigit then some (c.toNat - '0'.toNat + 26)
  else none

/-- A digit at position `k` below this is the last of its number. -/
def threshold (bias k : Nat) : Nat := max 1 (min 26 (k - bias))

theorem threshold_pos (bias k : Nat) : 0 < threshold bias k := by unfold threshold; omega

/-- The digits of a number, the lowest first, from position `k` on. -/
def digits (bias k n : Nat) : Text :=
  let t := threshold bias k
  if n < t then [digit n]
  else digit (t + (n - t) % (36 - t)) :: digits bias (k + 36) ((n - t) / (36 - t))
termination_by n
decreasing_by
  have := threshold_pos bias k
  exact Nat.lt_of_le_of_lt (Nat.div_le_self _ _) (by omega)

/-- Reads a number, whose digits have the weight `w` from position `k` on. -/
def number? (bias k w : Nat) : Text → Option (Nat × Text)
  | [] => none
  | c :: r => do
    let d ← digitValue? c
    let t := threshold bias k
    if d < t then some (d * w, r)
    else
      let (n, r) ← number? bias (k + 36) (w * (36 - t)) r
      some (d * w + n, r)

theorem number?_shorter {bias k w n : Nat} {t r : Text} (h : number? bias k w t = some (n, r)) :
    r.length < t.length := by
  induction t generalizing k w n r with
  | nil => simp [number?] at h
  | cons c s ih =>
    simp only [number?, Option.bind_eq_bind, Option.bind_eq_some_iff] at h
    obtain ⟨d, -, h⟩ := h
    split at h
    · simp_all
    · simp only [Option.bind_eq_some_iff] at h
      obtain ⟨⟨m, q⟩, hq, h⟩ := h
      have := ih hq
      simp_all
      omega

def shrink (n k : Nat) : Nat × Nat := if 455 < n then shrink (n / 35) (k + 36) else (n, k)
termination_by n
decreasing_by omega

/-- The bias after a gap `n` of a text of `count` characters: later gaps are expected to be
of its size. -/
def adapt (first : Bool) (n count : Nat) : Nat :=
  let n := if first then n / 700 else n / 2
  let (n, k) := shrink (n + n / count) 0
  k + 36 * n / (n + 38)

/-- Writes gaps after `count` characters. -/
def writeGaps (first : Bool) (bias count : Nat) : List Nat → Text
  | [] => []
  | g :: gs =>
    digits bias 36 g ++ writeGaps false (adapt first g (count + 1)) (count + 1) gs

def readGaps? (first : Bool) (bias count : Nat) (t : Text) : Option (List Nat) :=
  match t with
  | [] => some []
  | c :: s =>
    match h : number? bias 36 1 (c :: s) with
    | none => none
    | some (g, r) => (readGaps? false (adapt first g (count + 1)) (count + 1) r).map (g :: ·)
termination_by t.length
decreasing_by exact number?_shorter h

/-! ### Gaps -/

def isBasic (c : Char) : Bool := c.toNat < 0x80

/-- Goes over a text for the places of the character `m`. With it there are the gap so far
and the number of characters that are already put in. -/
def visit (m gap count : Nat) : Text → List Nat × Nat × Nat
  | [] => ([], gap, count)
  | c :: r =>
    if c.toNat < m then visit m (gap + 1) count r
    else if c.toNat = m then
      let (gs, rest) := visit m 0 (count + 1) r
      (gap :: gs, rest)
    else visit m gap count r

/-- The gaps for the characters `ms`, in increasing order and all from `n` on. -/
def gapsFrom (t : Text) (n gap count : Nat) : List Nat → List Nat
  | [] => []
  | m :: ms =>
    let (gs, g, k) := visit m (gap + (m - n) * (count + 1)) count t
    gs ++ gapsFrom t (m + 1) (g + 1) k ms

def gaps (t : Text) : List Nat :=
  let others := (t.filter (!isBasic ·)).map Char.toNat
  gapsFrom t 0x80 0 (t.filter isBasic).length (others.mergeSort.eraseReps)

/-- Puts characters from `n` on into a text, the first after gaps from place `i` on. -/
def fill? (n i : Nat) (t : Text) : List Nat → Option Text
  | [] => some t
  | g :: gs =>
    let n := n + (i + g) / (t.length + 1)
    let i := (i + g) % (t.length + 1)
    if n.isValidChar then fill? n (i + 1) (t.insertIdx i (Char.ofNat n)) gs else none

/-! ### Texts -/

def encode (t : Text) : Text :=
  let basic := t.filter isBasic
  basic ++ (if basic = [] then [] else ['-']) ++ writeGaps true 72 basic.length (gaps t)

/-- The text before the last hyphen and the one after it; a hyphen in front does not count. -/
def cut (t : Text) : Text × Text :=
  match t.reverse.span (· != '-') with
  | (back, _ :: c :: front) => ((c :: front).reverse, back.reverse)
  | _ => ([], t)

def decode? (t : Text) : Option Text := do
  let (basic, rest) := cut t
  fill? 0x80 0 basic (← readGaps? true 72 basic.length rest)

end LinkCourier.Punycode
