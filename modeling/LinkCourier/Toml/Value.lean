import LinkCourier.Text.Basic

/-!
Values of a settings document, each with the bytes of the document that it was read from.

Tables written as sections and tables written inside braces follow different rules, so they
are different nodes. A table is `implicit` while it only exists because something inside of
it has been named, and `dotted` if that was done by a dotted key.
-/

namespace LinkCourier.Toml

/-- Bytes from `start` on and before `stop`. -/
structure Span where
  start : Nat
  stop : Nat
  deriving DecidableEq, Repr

structure Key where
  text : Text
  span : Span
  deriving DecidableEq, Repr

/-- Of a date or a time it only matters that it is one. -/
inductive Scalar where
  | string (t : Text)
  | integer (i : Int)
  | float (x : Float)
  | boolean (b : Bool)
  | moment

/-- Entries in the order of their insertion. -/
structure Table (ν : Type) where
  implicit : Bool := false
  dotted : Bool := false
  entries : List (Key × ν) := []
  span : Option Span := none

inductive Node where
  | scalar (s : Scalar) (span : Span)
  | array (items : List Node) (span : Span)
  | braced (t : Table Node)
  | section (t : Table Node)
  | sections (ts : List (Table Node)) (span : Option Span)

def Node.span? : Node → Option Span
  | .scalar _ s => some s
  | .array _ s => some s
  | .braced t => t.span
  | .section t => t.span
  | .sections _ s => s

namespace Table

variable {ν : Type}

def find? (t : Table ν) (k : Key) : Option ν :=
  (t.entries.find? (·.1.text = k.text)).map (·.2)

def erase (t : Table ν) (k : Key) : Table ν :=
  { t with entries := t.entries.eraseP (·.1.text = k.text) }

def append (t : Table ν) (k : Key) (v : ν) : Table ν := { t with entries := t.entries ++ [(k, v)] }

/-- Changes the entry of a key, or makes one at the end; the first spelling of a key stays. -/
def alterEntries (f : Option ν → Option ν) (k : Key) : List (Key × ν) → Option (List (Key × ν))
  | [] => (f none).map fun v => [(k, v)]
  | (k', v) :: r =>
    if k'.text = k.text then (f (some v)).map fun v => (k', v) :: r
    else (alterEntries f k r).map ((k', v) :: ·)

def alter (t : Table ν) (k : Key) (f : Option ν → Option ν) : Option (Table ν) :=
  (alterEntries f k t.entries).map fun es => { t with entries := es }

end Table

end LinkCourier.Toml
