import LinkCourier.Link.Percent
import LinkCourier.Toml.Scan

/-!
The four ways to quote a text: with escapes or without, on one line or on several.
-/

namespace LinkCourier.Toml

open Scan

def hexValue (t : Text) : Nat := t.foldl (fun n c => 16 * n + (Percent.hexDigit? c).getD 0) 0

/-- A character by its number; surrogates are no characters. -/
def charOf (n : Nat) : Scan Char := do
  when (decide n.isValidChar)
  return Char.ofNat n

def numbered (places : Nat) : Scan Char := do
  charOf (hexValue (← exactly places fun c => (Percent.hexDigit? c).isSome))

def escape : Scan Text := do
  literal "\\"
  match ← one fun _ => true with
  | 'b' => return ['\x08']
  | 'f' => return ['\x0c']
  | 'n' => return ['\n']
  | 'r' => return ['\r']
  | 't' => return ['\t']
  | '"' => return ['"']
  | '\\' => return ['\\']
  | 'u' => return [← numbered 4]
  | 'U' => return [← numbered 8]
  | _ => failure

def isBasic (c : Char) : Bool := isPlain c && c != '"' && c != '\\'
def isLiteral (c : Char) : Bool := isPlain c && c != '\''

def basic : Scan Text := do
  literal "\""
  let pieces ← many (run1 isBasic <|> escape)
  literal "\""
  return pieces.flatten

def plain : Scan Text := do
  literal "'"
  let t ← run isLiteral
  literal "'"
  return t

/-- One or two quotes inside of a text on several lines. -/
def quotesInside (q : Char) : Scan Text := do
  let t ← run1 (· == q)
  when (t.length < 3)
  return t

/-- The three quotes at the end; up to two more before them belong to the text. -/
def quotesAtEnd (q : Char) : Scan Text := do
  let t ← run1 (· == q)
  when (3 ≤ t.length ∧ t.length ≤ 5)
  return t.drop 3

/-- A backslash at the end of a line hides the break and all blanks after it. -/
def hiddenBreak : Scan Text := do
  literal "\\"
  ws
  newline
  let _ ← many (newline <|> do let _ ← run1 isWs)
  return []

def lineBreak : Scan Text := do
  newline
  return ['\n']

/-- A text on several lines; a break right after the first quotes is no part of it. -/
def onLines (q : Char) (piece : Scan Text) : Scan Text := do
  let _ ← exactly 3 (· == q)
  let _ ← maybe newline
  let pieces ← many (piece <|> lineBreak <|> quotesInside q)
  return pieces.flatten ++ (← quotesAtEnd q)

def quotation : Scan Text :=
  onLines '"' (run1 isBasic <|> hiddenBreak <|> escape) <|> basic <|>
    onLines '\'' (run1 isLiteral) <|> plain

end LinkCourier.Toml
