import LinkCourier.Toml.Number
import LinkCourier.Toml.Quotation

/-!
The statements of a document: keys with values, and the headers of sections.
-/

namespace LinkCourier.Toml

open Scan

/-- Values may stand inside of one another to this depth, and keys may have so many parts. -/
def maxDepth : Nat := 79

/-! ### Keys -/

def isBare (c : Char) : Bool := c.isAlphanum || c == '-' || c == '_'

def simpleKey : Scan Key := do
  let (text, span) ← spanned (basic <|> plain <|> run1 isBare)
  return ⟨text, span⟩

/-- The parts of a key, with blanks around each. -/
def key : Scan (List Key) := do
  let ks ← sepBy1 (ws *> simpleKey <* ws) (literal ".")
  when (ks.length ≤ maxDepth)
  return ks

/-- A key, as the path to its last part and that part. -/
def keyPath : Scan (List Key × Key) := do
  let ks ← key
  match ks.getLast? with
  | some k => return (ks.dropLast, k)
  | none => failure

/-! ### Tables in braces -/

/-- Changes the table at the end of a path, and makes the tables on the way. A dotted key may
not pass through a table that has been written out. -/
def reachBraced (f : Table Node → Option (Table Node)) :
    List Key → Table Node → Option (Table Node)
  | [], t => f t
  | k :: ks, t => t.alter k fun
    | none => .braced <$> reachBraced f ks { implicit := true, dotted := true }
    | some (.braced c) => if c.implicit then .braced <$> reachBraced f ks c else none
    | some _ => none

/-- Adds a new key with its value; a table is filled by dotted keys or else by plain ones. -/
def fresh (path : List Key) (k : Key) (v : Node) (t : Table Node) : Option (Table Node) :=
  if t.dotted == path.isEmpty then none
  else t.alter k fun
    | none => some v
    | some _ => none

def bracedOf (pairs : List ((List Key × Key) × Node)) : Option (Table Node) :=
  pairs.foldlM (fun t ((path, k), v) => reachBraced (fresh path k v) path t) {}

/-! ### Values -/

def scalar : Scan Scalar := fun c =>
  match c.rest.head? with
  | some '"' | some '\'' => (do return .string (← quotation) : Scan Scalar) c
  | some 't' | some 'f' => boolean c
  | some 'i' | some 'n' => special c
  | _ => (moment <|> float <|> special <|> integer) c

def arrayOf (value : Scan Node) : Scan Node := do
  let (items, span) ← spanned (do
    literal "["
    let items ← sepBy (gap *> value <* gap) (literal ",")
    if !items.isEmpty then
      let _ ← maybe (literal ",")
    gap
    literal "]"
    return items)
  return .array items span

def bracesOf (value : Scan Node) : Scan Node := do
  let (pairs, span) ← spanned (do
    literal "\x7b"
    let pairs ← sepBy (do
      let k ← keyPath
      literal "="
      ws
      let v ← value
      ws
      return (k, v)) (literal ",")
    ws
    literal "\x7d"
    return pairs)
  match bracedOf pairs with
  | some t => return .braced { t with span := some span }
  | none => failure

/-- A value that may hold values to a depth. -/
def valueTo : Nat → Scan Node
  | 0 => atom
  | depth + 1 => arrayOf (valueTo depth) <|> bracesOf (valueTo depth) <|> atom
where
  atom : Scan Node := do
    let (s, span) ← spanned scalar
    return .scalar s span

def value : Scan Node := valueTo maxDepth

/-! ### Statements -/

inductive Statement where
  | entry (path : List Key) (k : Key) (v : Node)
  | header (path : List Key) (k : Key) (span : Span)
  | listHeader (path : List Key) (k : Key) (span : Span)

def entry : Scan Statement := do
  let (path, k) ← keyPath
  literal "="
  ws
  let v ← value
  lineEnd
  return .entry path k v

def header : Scan Statement := do
  let ((path, k), span) ← spanned (literal "[" *> keyPath <* literal "]")
  lineEnd
  return .header path k span

def listHeader : Scan Statement := do
  let ((path, k), span) ← spanned (literal "[[" *> keyPath <* literal "]]")
  lineEnd
  return .listHeader path k span

/-- A statement, or a line that holds none. -/
def line : Scan (Option Statement) := do
  let s ← some <$> listHeader <|> some <$> header <|> some <$> entry <|>
    (do comment; newline <|> ended; return none) <|> (do newline; return none)
  ws
  return s

def statements : Scan (List Statement) := do
  let _ ← maybe (literal "\uFEFF")
  ws
  let ls ← many line
  ended
  return ls.filterMap id

def statements? (t : Text) : Option (List Statement) := (statements { rest := t }).map (·.1)

end LinkCourier.Toml
