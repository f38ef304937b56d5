import LinkCourier.Text.Blank

/-!
A line of a command: a text without line breaks, its first word and what follows it.
-/

namespace LinkCourier

def isBreak (c : Char) : Bool := c == '\r' || c == '\n'

structure Line where
  text : Text
  unbroken : ∀ c ∈ text, isBreak c = false
  deriving DecidableEq

namespace Line

@[ext] theorem ext {l m : Line} (h : l.text = m.text) : l = m := by
  cases l
  cases m
  simpa using h

theorem unbroken_of_any {t : Text} (h : t.any isBreak = false) : ∀ c ∈ t, isBreak c = false := by
  simpa using h

/-- The byte at which a text breaks. -/
structure Break where
  index : Nat
  deriving DecidableEq, Repr

def Break.message (b : Break) : String := s!"line contains a terminator at byte {b.index}"

def ofText (t : Text) : Except Break Line :=
  if h : t.any isBreak = false then .ok ⟨t, unbroken_of_any h⟩
  else .error ⟨Text.byteLength (t.takeWhile (!isBreak ·))⟩

/-- A text that breaks nowhere is a line, and no other text is. -/
theorem ofText_eq_ok_iff {t : Text} {l : Line} : ofText t = .ok l ↔ l.text = t := by
  unfold ofText
  split
  · simp only [Except.ok.injEq]
    exact ⟨fun h => h ▸ rfl, fun h => by cases l; simp_all⟩
  · rename_i h
    simp only [reduceCtorEq, false_iff]
    exact fun e => h (e ▸ by simpa using l.unbroken)

def words (l : Line) : List Text := Text.words l.text

def verb? (l : Line) : Option Text := l.words.head?

/-- The words after the verb. -/
def args (l : Line) : List Text := l.words.drop 1

/-- What follows the first ASCII blank after the leading white space, trimmed. -/
def rest (l : Line) : Text :=
  Text.trim ((Text.trimStart l.text).dropWhile (!Text.isAsciiBlank ·))

def isBlank (l : Line) : Bool := Text.isBlankText l.text

end Line

end LinkCourier
