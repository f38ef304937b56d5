import LinkCourier.Line

/-!
Commands: one or more lines, sent in one connection. A download is asked for by two lines,
one that loads the module for web links and one that names the link.
-/

namespace LinkCourier

structure Command where
  lines : List Line
  nonempty : lines ≠ []
  deriving DecidableEq

namespace Command

/-- The first line of a download. -/
def preamble : String := "modprobe http"

/-- The verb of the line that carries a link. -/
def downloadVerb : String := "do"

/-- Why there is no command; `stated` is a reason given in words. -/
inductive Fault where
  | broken (b : Line.Break)
  | blankLink
  | brokenLink
  | noLines
  | stated (reason : Text)
  deriving DecidableEq, Repr

def Fault.message : Fault → String
  | .broken b => b.message
  | .blankLink => "link is empty"
  | .brokenLink => "link contains a line terminator"
  | .noLines => "command has no lines"
  | .stated reason => String.ofList reason

def ofLines (ls : List Line) : Except Fault Command :=
  if h : ls ≠ [] then .ok ⟨ls, h⟩ else .error .noLines

/-- The lines of the given texts; the first text that breaks is the fault. -/
def linesOfTexts : List Text → Except Fault (List Line)
  | [] => .ok []
  | t :: ts => match Line.ofText t with
    | .error b => .error (.broken b)
    | .ok l => (linesOfTexts ts).map (l :: ·)

def ofTexts (ts : List Text) : Except Fault Command :=
  match linesOfTexts ts with
  | .error f => .error f
  | .ok ls => ofLines ls

def preambleLine : Line := ⟨preamble.toList, Line.unbroken_of_any (by decide)⟩

/-- The download of a link. A blank link is refused before a broken one. -/
def download (link : Text) : Except Fault Command :=
  if Text.isBlankText link then .error .blankLink
  else match Line.ofText (downloadVerb.toList ++ ' ' :: link) with
    | .error _ => .error .brokenLink
    | .ok l => .ok ⟨[preambleLine, l], by simp⟩

/-- What follows the verb of the first download line, if anything does. -/
def link? (c : Command) : Option Text :=
  match c.lines.find? (·.verb? = some downloadVerb.toList) with
  | none => none
  | some l => if l.rest = [] then none else some l.rest

end Command

end LinkCourier
