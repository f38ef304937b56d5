import LinkCourier.Framing.Codec

/-!
A command as bytes: its lines one after the other. Reading ends at the first blank line or
at the end of the bytes.
-/

namespace LinkCourier.Framing

def encodeCommand (c : Command) : Bytes := c.lines.flatMap encodeLine

/-- The lines up to the first blank one, after those already read, newest first. -/
def Codec.readAll (c : Codec) (buf : Bytes) (read : List Line) : Result Fault (List Line) :=
  match _h : c.decodeEof buf with
  | ⟨.error f, _, _⟩ => .error f
  | ⟨.panicked, _, _⟩ => .panicked
  | ⟨.ok none, _, _⟩ => .ok read.reverse
  | ⟨.ok (some l), c', rest⟩ => if l.isBlank then .ok read.reverse else readAll c' rest (l :: read)
termination_by buf.length
decreasing_by exact decodeEof_shorter _h

def decodeCommand (w : Bytes) : Result Fault Command :=
  match ({} : Codec).readAll w [] with
  | .error f => .error f
  | .panicked => .panicked
  | .ok ls => if h : ls ≠ [] then .ok ⟨ls, h⟩ else .error .noLines

end LinkCourier.Framing
