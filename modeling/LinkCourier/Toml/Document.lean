import LinkCourier.Toml.Grammar

/-!
The tables of a document, put together from its statements.
-/

namespace LinkCourier.Toml

/-- Changes the table at the end of a path, and makes the tables on the way. The path goes
through the last of several sections of one name. A dotted key may not pass through a table
that has been written out. -/
def reach (dotted : Bool) (f : Table Node → Option (Table Node)) :
    List Key → Table Node → Option (Table Node)
  | [], t => f t
  | k :: ks, t => t.alter k fun
    | none => .section <$> reach dotted f ks { implicit := true, dotted }
    | some (.section c) =>
      if dotted && !c.implicit then none else .section <$> reach dotted f ks c
    | some (.sections cs span) => match cs.getLast? with
      | none => none
      | some c => (reach dotted f ks c).map fun c => .sections (cs.dropLast ++ [c]) span
    | some _ => none

/-- Adds an entry; a table with bytes of its own reaches to the end of the value. -/
def addEntry (t : Table Node) : List Key × Key × Node → Option (Table Node)
  | (path, k, v) =>
    let span := match t.span, v.span? with
      | some s, some e => some ⟨s.start, e.stop⟩
      | s, _ => s
    reach true (fresh path k v) path { t with span }

/-- A header with the entries under it. -/
structure Section where
  listed : Bool
  path : List Key
  key : Key
  span : Span
  entries : List (List Key × Key × Node)

/-- The entries before the first header, and the sections. -/
def split : List Statement → List (List Key × Key × Node) × List Section
  | [] => ([], [])
  | .entry path k v :: r => let (es, ss) := split r; ((path, k, v) :: es, ss)
  | .header path k span :: r => let (es, ss) := split r; ([], ⟨false, path, k, span, es⟩ :: ss)
  | .listHeader path k span :: r => let (es, ss) := split r; ([], ⟨true, path, k, span, es⟩ :: ss)

/-- From the first of several sections of one name to the last. -/
def reachOver (ts : List (Table Node)) : Option Span :=
  match ts.head?.bind (·.span), ts.getLast?.bind (·.span) with
  | some a, some b => some ⟨a.start, b.stop⟩
  | _, _ => none

/-- Adds a section to the table that its header names it in. A section may be written once;
that sections inside of it have been named before does no harm, and moves it to the end. -/
def Section.addTo (s : Section) (parent : Table Node) : Option (Table Node) :=
  if s.listed then do
    let t ← s.entries.foldlM addEntry { span := some s.span }
    parent.alter s.key fun
      | none => some (.sections [t] (reachOver [t]))
      | some (.sections ts _) => some (.sections (ts ++ [t]) (reachOver (ts ++ [t])))
      | some _ => none
  else do
    let held ← match parent.find? s.key with
      | none => some []
      | some (.section t) => if t.implicit && !t.dotted then some t.entries else none
      | some _ => none
    let t ← s.entries.foldlM addEntry { entries := held, span := some s.span }
    return (parent.erase s.key).append s.key (.section t)

def documentOf (ss : List Statement) : Option (Table Node) := do
  let (entries, sections) := split ss
  let root ← entries.foldlM addEntry {}
  sections.foldlM (fun root s => reach false s.addTo s.path root) root

/-- The table that a text describes, if it is a document. -/
def parse (t : Text) : Option (Table Node) := (statements? t).bind documentOf

end LinkCourier.Toml
