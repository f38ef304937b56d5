import LinkCourier.Duration
import LinkCourier.Endpoint
import LinkCourier.Io

/-!
What client and server can be told: where the daemon listens, and six numbers, none of which
may be zero.
-/

namespace LinkCourier

structure Settings where
  endpoint : Endpoint := default
  timeoutMs : UInt64 := 5000
  maxResponseBytes : UInt64 := 1048576
  maxLineBytes : UInt64 := 8192
  maxConnections : UInt64 := 1024
  readTimeoutMs : UInt64 := 5000
  writeTimeoutMs : UInt64 := 5000
  deriving DecidableEq, Repr

namespace Settings

inductive Field where
  | timeoutMs | maxResponseBytes | maxLineBytes | maxConnections | readTimeoutMs | writeTimeoutMs
  deriving DecidableEq, Repr

namespace Field

/-- In the order in which they are checked. -/
def all : List Field :=
  [.timeoutMs, .maxResponseBytes, .maxLineBytes, .maxConnections, .readTimeoutMs, .writeTimeoutMs]

theorem mem_all (f : Field) : f ∈ all := by cases f <;> decide

def name : Field → String
  | .timeoutMs => "timeout_ms"
  | .maxResponseBytes => "max_response_bytes"
  | .maxLineBytes => "max_line_bytes"
  | .maxConnections => "max_connections"
  | .readTimeoutMs => "read_timeout_ms"
  | .writeTimeoutMs => "write_timeout_ms"

end Field

def get (s : Settings) : Field → UInt64
  | .timeoutMs => s.timeoutMs
  | .maxResponseBytes => s.maxResponseBytes
  | .maxLineBytes => s.maxLineBytes
  | .maxConnections => s.maxConnections
  | .readTimeoutMs => s.readTimeoutMs
  | .writeTimeoutMs => s.writeTimeoutMs

def set (s : Settings) (f : Field) (n : UInt64) : Settings :=
  match f with
  | .timeoutMs => { s with timeoutMs := n }
  | .maxResponseBytes => { s with maxResponseBytes := n }
  | .maxLineBytes => { s with maxLineBytes := n }
  | .maxConnections => { s with maxConnections := n }
  | .readTimeoutMs => { s with readTimeoutMs := n }
  | .writeTimeoutMs => { s with writeTimeoutMs := n }

@[simp] theorem get_set (s : Settings) (f g : Field) (n : UInt64) :
    (s.set f n).get g = if g = f then n else s.get g := by
  cases f <;> cases g <;> rfl

/-- Why settings cannot be used; `document` is a report on a settings file, `stated` a reason
given in words. -/
inductive Fault where
  | endpoint (f : Endpoint.Fault)
  | zero (f : Field)
  | unreadable (path : Text) (cause : IoError)
  | malformed
  | document (report : Text)
  | stated (reason : Text)
  deriving DecidableEq, Repr

def Fault.message : Fault → String
  | .endpoint f => f.message
  | .zero f => s!"{f.name} must be greater than 0"
  | .unreadable path cause => s!"Cannot read {String.ofList path}: {cause.message}"
  | .malformed => "TOML syntax error"
  | .document report => String.ofList report
  | .stated reason => String.ofList reason

/-- The first thing that keeps the settings from being used. -/
def fault? (s : Settings) : Option Fault :=
  match s.endpoint.fault? with
  | some f => some (.endpoint f)
  | none => (Field.all.find? (s.get · = 0)).map .zero

def check (s : Settings) : Except Fault Settings :=
  match s.fault? with
  | some f => .error f
  | none => .ok s

def timeout (s : Settings) : Duration := ⟨s.timeoutMs⟩
def readTimeout (s : Settings) : Duration := ⟨s.readTimeoutMs⟩
def writeTimeout (s : Settings) : Duration := ⟨s.writeTimeoutMs⟩

end Settings

end LinkCourier
