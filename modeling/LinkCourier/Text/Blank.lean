import LinkCourier.Text.Basic

/-!
White space, trimming and words. Trimming removes every character of the Unicode class
`White_Space`; words are separated by the five blanks of ASCII only.
-/

namespace LinkCourier.Text

/-- The Unicode class `White_Space`. -/
def isBlank (c : Char) : Bool :=
  let n := c.toNat
  (9 ≤ n && n ≤ 13) || n == 0x20 || n == 0x85 || n == 0xA0 || n == 0x1680 ||
    (0x2000 ≤ n && n ≤ 0x200A) || n == 0x2028 || n == 0x2029 || n == 0x202F || n == 0x205F ||
    n == 0x3000

/-- Space, tab, line feed, form feed and carriage return; not the vertical tab. -/
def isAsciiBlank (c : Char) : Bool :=
  c == ' ' || c == '\t' || c == '\n' || c == '\x0c' || c == '\r'

theorem isBlank_of_isAsciiBlank {c : Char} (h : isAsciiBlank c) : isBlank c := by
  simp only [isAsciiBlank, Bool.or_eq_true, beq_iff_eq] at h
  obtain (((rfl | rfl) | rfl) | rfl) | rfl := h <;> decide

def trimStart (t : Text) : Text := t.dropWhile isBlank

def trimEnd (t : Text) : Text := (t.reverse.dropWhile isBlank).reverse

def trim (t : Text) : Text := trimEnd (trimStart t)

/-- Nothing is left of the text when it is trimmed. -/
def isBlankText (t : Text) : Bool := t.all isBlank

/-- The non-empty pieces between ASCII blanks. -/
def words (t : Text) : List Text := (t.splitOnP isAsciiBlank).filter (!·.isEmpty)

end LinkCourier.Text
