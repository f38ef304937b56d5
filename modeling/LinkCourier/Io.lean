import LinkCourier.Text.Basic

/-!
What can go wrong in reading and writing.
-/

namespace LinkCourier

inductive IoKind where
  | notFound | permissionDenied | connectionRefused | connectionReset | connectionAborted
  | notConnected | hostUnreachable | networkUnreachable | addressInUse | addressNotAvailable
  | alreadyExists | brokenPipe | wouldBlock | invalidInput | invalidData | timedOut | writeZero
  | interrupted | unsupported | unexpectedEof | outOfMemory | other
  deriving DecidableEq, Repr

def IoKind.message : IoKind → String
  | .notFound => "entity not found"
  | .permissionDenied => "permission denied"
  | .connectionRefused => "connection refused"
  | .connectionReset => "connection reset"
  | .connectionAborted => "connection aborted"
  | .notConnected => "not connected"
  | .hostUnreachable => "host unreachable"
  | .networkUnreachable => "network unreachable"
  | .addressInUse => "address in use"
  | .addressNotAvailable => "address not available"
  | .alreadyExists => "entity already exists"
  | .brokenPipe => "broken pipe"
  | .wouldBlock => "operation would block"
  | .invalidInput => "invalid input parameter"
  | .invalidData => "invalid data"
  | .timedOut => "timed out"
  | .writeZero => "write zero"
  | .interrupted => "operation interrupted"
  | .unsupported => "unsupported"
  | .unexpectedEof => "unexpected end of file"
  | .outOfMemory => "out of memory"
  | .other => "other error"

/-- Failures that the operating system numbers. -/
inductive OsError where
  | noSuchFile | addressInUse | networkUnreachable | connectionReset | connectionRefused
  deriving DecidableEq, Repr

namespace OsError

def ofNumber? : Nat → Option OsError
  | 2 => some .noSuchFile
  | 98 => some .addressInUse
  | 101 => some .networkUnreachable
  | 104 => some .connectionReset
  | 111 => some .connectionRefused
  | _ => none

def kind : OsError → IoKind
  | .noSuchFile => .notFound
  | .addressInUse => .addressInUse
  | .networkUnreachable => .networkUnreachable
  | .connectionReset => .connectionReset
  | .connectionRefused => .connectionRefused

def message : OsError → String
  | .noSuchFile => "No such file or directory (os error 2)"
  | .addressInUse => "Address already in use (os error 98)"
  | .networkUnreachable => "Network is unreachable (os error 101)"
  | .connectionReset => "Connection reset by peer (os error 104)"
  | .connectionRefused => "Connection refused (os error 111)"

end OsError

inductive IoError where
  | plain (kind : IoKind)
  | worded (kind : IoKind) (text : Text)
  | system (cause : OsError)
  deriving DecidableEq, Repr

namespace IoError

def kind : IoError → IoKind
  | .plain k => k
  | .worded k _ => k
  | .system c => c.kind

def message : IoError → String
  | .plain k => k.message
  | .worded _ t => String.ofList t
  | .system c => c.message

/-- The other side went away. -/
def isDisconnect (e : IoError) : Bool :=
  e.kind ∈ [.unexpectedEof, .connectionReset, .connectionAborted, .brokenPipe]

end IoError

end LinkCourier
