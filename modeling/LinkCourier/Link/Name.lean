import LinkCourier.Link.Name.Direction
import LinkCourier.Link.Name.Joining
import LinkCourier.Link.Name.Spelling
import LinkCourier.Text.Composed
import LinkCourier.Text.Punycode
import LinkCourier.Text.Utf8

/-!
Host names in their ASCII form. A label with other characters is written in Punycode, after
a tag that says so; what has the tag must be the written form of such a label.
-/

namespace LinkCourier.Name

/-- Characters that no host name may hold. -/
def isForbidden (c : Char) : Bool :=
  c ≤ ' ' || c == '\x7f' ||
    c ∈ ['%', '#', '/', ':', '<', '>', '?', '@', '[', '\\', ']', '^', '|']

def labels (t : Text) : List Text := t.splitOnP (· == '.')

/-- The tag of a label in Punycode. -/
def tag : Text := ['x', 'n', '-', '-']

def isTagged (label : Text) : Bool := tag.isPrefixOf label

/-- A label as it is read and as it is written. -/
structure Label where
  read : Text
  written : Text
deriving DecidableEq

namespace Label

/-- Whether a label with characters beyond ASCII can be read. -/
def isReadable (t : Text) : Bool :=
  !(t.head?.any Combining.isMark) && Joining.isJoined [] t && !isTagged t

/-- The label that is read from a text in Punycode. -/
def ofPunycode? (t : Text) : Option Label := do
  let read ← Punycode.decode? t
  if !read.all Punycode.isBasic && read.all Spelling.isPlain && Composed.ofText read = read &&
      isReadable read then
    some ⟨read, tag ++ t⟩
  else none

def ofText? (t : Text) : Option Label :=
  if t.all Punycode.isBasic then
    if isTagged t then ofPunycode? (t.drop tag.length) else some ⟨t, t⟩
  else if isReadable t then some ⟨t, tag ++ Punycode.encode t⟩
  else none

end Label

/-- If one label is read from the right in places, all labels must be clear. -/
def isClear (ls : List Label) : Bool :=
  !(ls.any (·.read.any Direction.isRightward)) || ls.all (Direction.isClear ·.read)

/-- A name in the spelling of names. -/
def spell? (t : Text) : Option Text :=
  (t.mapM Spelling.of?).map fun ts => Composed.ofText ts.flatten

/-- The ASCII form of a name. A name in ASCII without tags is its own, in small letters. -/
def ofText? (t : Text) : Option Text := do
  if t.all Punycode.isBasic && !(labels (t.map Char.toLower)).any isTagged then
    if t.any isForbidden then none else some (t.map Char.toLower)
  else
    let t ← spell? t
    if t.any isForbidden then none
    else
      let ls ← (labels t).mapM Label.ofText?
      if isClear ls then some (List.intercalate ['.'] (ls.map (·.written))) else none

/-- The ASCII form of the name that the bytes carry. -/
def ofBytes? (w : Bytes) : Option Text :=
  match Utf8.decode w with
  | .error _ => none
  | .ok t => ofText? t

end LinkCourier.Name
