import LinkCourier.Toml.Value

/-!
Reading a document from left to right: what is left of it and the byte at which that begins.
A scan that fails has read nothing.
-/

namespace LinkCourier.Toml

structure Cursor where
  rest : Text
  index : Nat := 0

abbrev Scan := StateT Cursor Option

namespace Scan

variable {α : Type}

def advance (c : Cursor) (n : Nat) : Cursor :=
  { rest := c.rest.drop n, index := c.index + Text.byteLength (c.rest.take n) }

/-- One character of a class. -/
def one (p : Char → Bool) : Scan Char := fun c =>
  match c.rest with
  | x :: _ => if p x then some (x, advance c 1) else none
  | [] => none

/-- All characters up to the first one outside of a class. -/
def run (p : Char → Bool) : Scan Text := fun c =>
  let t := c.rest.takeWhile p
  some (t, advance c t.length)

/-- One character of a class or more. -/
def run1 (p : Char → Bool) : Scan Text := do
  let t ← run p
  if t.isEmpty then failure else return t

/-- So many characters of a class. -/
def exactly (n : Nat) (p : Char → Bool) : Scan Text := fun c =>
  let t := c.rest.take n
  if t.length = n ∧ t.all p then some (t, advance c n) else none

def literal (s : String) : Scan Unit := fun c =>
  if s.toList.isPrefixOf c.rest then some ((), advance c s.length) else none

def ended : Scan Unit := fun c => if c.rest.isEmpty then some ((), c) else none

def manyFor : Nat → Scan α → Scan (List α)
  | 0, _ => return []
  | n + 1, p => (do let a ← p; return a :: (← manyFor n p)) <|> return []

/-- As often as possible. Every round takes a character or more, so that there are no more
rounds than characters. -/
def many (p : Scan α) : Scan (List α) := fun c => manyFor c.rest.length p c

def maybe (p : Scan α) : Scan (Option α) := some <$> p <|> return none

/-- Once or more often, with something in between. -/
def sepBy1 (p : Scan α) (between : Scan Unit) : Scan (List α) := do
  let a ← p
  return a :: (← many (between *> p))

def sepBy (p : Scan α) (between : Scan Unit) : Scan (List α) := sepBy1 p between <|> return []

/-- What was read, with its bytes. -/
def spanned (p : Scan α) : Scan (α × Span) := fun c =>
  (p c).map fun (a, d) => ((a, ⟨c.index, d.index⟩), d)

def when (b : Bool) : Scan Unit := if b then return () else failure

/-! ### Blanks -/

def isWs (c : Char) : Bool := c == ' ' || c == '\t'

def ws : Scan Unit := do let _ ← run isWs

def newline : Scan Unit := literal "\n" <|> literal "\r\n"

/-- Characters that stand for themselves in a comment. -/
def isPlain (c : Char) : Bool := c == '\t' || (' ' ≤ c && c ≠ '\x7f')

def comment : Scan Unit := do
  literal "#"
  let _ ← run isPlain

def lineEnd : Scan Unit := do
  ws
  let _ ← maybe comment
  newline <|> ended

/-- Blanks, comments and line breaks between the items of an array. -/
def gap : Scan Unit := do
  ws
  let _ ← many (do
    let _ ← maybe comment
    newline
    ws)

end Scan

end LinkCourier.Toml
