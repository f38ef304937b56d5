import LinkCourier.Settings
import LinkCourier.Text.Quoted
import LinkCourier.Text.Shortest
import LinkCourier.Text.Utf8
import LinkCourier.Toml.Document
import LinkCourier.Toml.Excerpt

/-!
Settings from a document. What the document does not say keeps its default, and what it says
beyond the settings does not count.
-/

namespace LinkCourier.Settings

open Toml

/-- A value that is not what it should be, and where it stands. -/
structure Mismatch where
  span : Span
  message : Text

/-- What is expected of a value, in the words of reports. -/
inductive Expected where
  | word | size | port | string | endpoint

def Expected.text : Expected → String
  | .word => "u64"
  | .size => "usize"
  | .port => "u16"
  | .string => "a string"
  | .endpoint => "struct Endpoint"

/-- What a value is, in the words of reports. -/
def describe : Node → Text
  | .scalar (.string t) _ => "string ".toList ++ Quoted.quote t
  | .scalar (.integer i) _ => s!"integer `{i}`".toList
  | .scalar (.float x) _ => "floating point `".toList ++ Shortest.text x ++ ['\x60']
  | .scalar (.boolean b) _ => s!"boolean `{b}`".toList
  | .scalar .moment _ => "map".toList
  | .array _ _ => "sequence".toList
  | .braced _ => "map".toList
  | .section _ => "map".toList
  | .sections _ _ => "sequence".toList

/-- A value and where it stands; a table that was never written out stands where its key does. -/
structure Found where
  node : Node
  span : Span

def mismatch (v : Found) (fault : String) (e : Expected) : Mismatch :=
  ⟨v.span, fault.toList ++ describe v.node ++ ", expected ".toList ++ e.text.toList⟩

def readNumber (bound : Nat) (e : Expected) (v : Found) : Except Mismatch Nat :=
  match v.node with
  | .scalar (.integer i) _ =>
    if 0 ≤ i ∧ i < bound then .ok i.toNat else .error (mismatch v "invalid value: " e)
  | _ => .error (mismatch v "invalid type: " e)

def readWord (e : Expected) (v : Found) : Except Mismatch UInt64 :=
  (readNumber UInt64.size e v).map Nat.toUInt64

def readPort (v : Found) : Except Mismatch UInt16 :=
  (readNumber UInt16.size .port v).map Nat.toUInt16

def readString (v : Found) : Except Mismatch Text :=
  match v.node with
  | .scalar (.string t) _ => .ok t
  | _ => .error (mismatch v "invalid type: " .string)

/-- Reads the entries of a table in order. -/
def readTable {α : Type} (read : α → String → Found → Except Mismatch α) (start : α)
    (t : Table Node) : Except Mismatch α :=
  t.entries.foldlM (fun a (k, v) =>
    read a (String.ofList k.text) ⟨v, v.span?.getD k.span⟩) start

def endpointEntry (e : Endpoint) (name : String) (v : Found) : Except Mismatch Endpoint :=
  match name with
  | "host" => return { e with host := ← readString v }
  | "port" => return { e with port := ← readPort v }
  | _ => return e

/-- An item of an array in place of a table; every item has a place of its own. -/
def item (v : Found) (n : Node) : Found := ⟨n, n.span?.getD v.span⟩

/-- An endpoint as host and port in this order. -/
def readPair (v : Found) (items : List Node) : Except Mismatch Endpoint := do
  let e : Endpoint := default
  match items with
  | [] => return e
  | [h] => return { e with host := ← readString (item v h) }
  | h :: p :: _ => return { host := ← readString (item v h), port := ← readPort (item v p) }

def readEndpoint (v : Found) : Except Mismatch Endpoint :=
  match v.node with
  | .braced t => readTable endpointEntry default t
  | .section t => readTable endpointEntry default t
  | .array items _ => readPair v items
  | .sections ts _ => readPair v (ts.map .section)
  | .scalar .moment _ => .ok default
  | _ => .error (mismatch v "invalid type: " .endpoint)

def entry (s : Settings) (name : String) (v : Found) : Except Mismatch Settings :=
  match name with
  | "endpoint" => return { s with endpoint := ← readEndpoint v }
  | "timeout_ms" => return { s with timeoutMs := ← readWord .word v }
  | "max_response_bytes" => return { s with maxResponseBytes := ← readWord .size v }
  | "max_line_bytes" => return { s with maxLineBytes := ← readWord .size v }
  | "max_connections" => return { s with maxConnections := ← readWord .size v }
  | "read_timeout_ms" => return { s with readTimeoutMs := ← readWord .word v }
  | "write_timeout_ms" => return { s with writeTimeoutMs := ← readWord .word v }
  | _ => return s

/-- Usable settings from the text of a document. -/
def ofText (t : Text) : Except Fault Settings :=
  match parse t with
  | none => .error .malformed
  | some root => match readTable entry {} root with
    | .error m => .error (.document (report t m.span m.message))
    | .ok s => s.check

/-- Usable settings from the contents of a file. -/
def ofFile (path : Text) (contents : Except IoError Bytes) : Except Fault Settings :=
  match contents with
  | .error e => .error (.unreadable path e)
  | .ok w => match Utf8.decode w with
    | .error _ =>
      .error (.unreadable path (.worded .invalidData "stream did not contain valid UTF-8".toList))
    | .ok t => ofText t

end LinkCourier.Settings
