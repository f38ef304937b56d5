import LinkCourier.Text.Decimal
import LinkCourier.Toml.Value

/-!
Reports that show a place in a document: the line it begins in, with a mark under it.
-/

namespace LinkCourier.Toml

/-- Where a byte stands: the number of the line, from zero, the characters of that line before
the byte, and the line itself. -/
structure Place where
  line : Nat
  column : Nat
  content : Text

/-- The characters before a byte, newest first, and those from it on. -/
def cut (index : Nat) (before : Text) : Text → Text × Text
  | [] => (before, [])
  | c :: r => if index = 0 then (before, c :: r) else cut (index - c.utf8Size) (c :: before) r

def place (source : Text) (index : Nat) : Place :=
  let (before, after) := cut index [] source
  let left := before.takeWhile (· != '\n')
  { line := before.count '\n'
    column := left.length
    content := left.reverse ++ after.takeWhile (· != '\n') }

/-- A report on a place in a document. There is a mark for each byte of the place, as far as
the line goes, and one at least. -/
def report (source : Text) (span : Span) (message : Text) : Text :=
  let p := place source span.start
  let number := Decimal.digits (p.line + 1)
  let gutter := List.replicate (number.length + 1) ' ' ++ ['|']
  let marks := min (span.stop - span.start) (Text.byteLength p.content - p.column)
  "TOML parse error at line ".toList ++ number ++ ", column ".toList ++
    Decimal.digits (p.column + 1) ++ '\n' ::
    gutter ++ '\n' ::
    number ++ " | ".toList ++ p.content ++ '\n' ::
    gutter ++ List.replicate (p.column + 1) ' ' ++ List.replicate (max marks 1) '^' ++ '\n' ::
    message ++ ['\n']

end LinkCourier.Toml
