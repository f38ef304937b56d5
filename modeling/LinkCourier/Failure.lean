import LinkCourier.Framing.Codec
import LinkCourier.Settings

/-!
How an exchange fails, and the kinds under which failures are reported.
-/

namespace LinkCourier

inductive Failure where
  | invalidCommand (fault : Command.Fault)
  | connectionFailed (endpoint : Text) (cause : IoError)
  | timeout (after : Duration)
  | cancelled
  | io (cause : IoError)
  | responseTooLarge (limit : UInt64)
  | framing (fault : Framing.Fault)
  | handler (reason : Text)
  | settings (fault : Settings.Fault)
  deriving DecidableEq, Repr

namespace Failure

inductive Kind where
  | invalidCommand | connectionFailed | timeout | io | cancelled | framing | handler | settings
  deriving DecidableEq, Repr

/-- A response that is too large counts as a failure of reading. -/
def kind : Failure → Kind
  | .invalidCommand _ => .invalidCommand
  | .connectionFailed _ _ => .connectionFailed
  | .timeout _ => .timeout
  | .cancelled => .cancelled
  | .io _ => .io
  | .responseTooLarge _ => .io
  | .framing _ => .framing
  | .handler _ => .handler
  | .settings _ => .settings

/-- The name of a kind in reports. -/
def Kind.name : Kind → String
  | .invalidCommand => "InvalidCommand"
  | .connectionFailed => "ConnectionFailed"
  | .timeout => "Timeout"
  | .io => "Io"
  | .cancelled => "Cancelled"
  | .framing => "Protocol"
  | .handler => "Handler"
  | .settings => "Config"

/-- A settings file that is no document is reported without the name of the kind. -/
def message : Failure → String
  | .invalidCommand f => s!"Invalid command: {f.message}"
  | .connectionFailed e c => s!"Connection to {String.ofList e} failed: {c.message}"
  | .timeout d => s!"Exchange timed out after {String.ofList d.text}"
  | .cancelled => "Exchange cancelled"
  | .io c => s!"IO error: {c.message}"
  | .responseTooLarge limit => s!"Response exceeds {limit.toNat} bytes"
  | .framing f => s!"Protocol error: {f.message}"
  | .handler reason => s!"Handler error: {String.ofList reason}"
  | .settings .malformed => Settings.Fault.malformed.message
  | .settings f => s!"Configuration error: {f.message}"

/-- A failure of reading or writing that only means that the other side went away. -/
def isDisconnect : Failure → Bool
  | .io c => c.isDisconnect
  | _ => false

/-- The failure of reading or writing behind this one. -/
def cause? : Failure → Option IoError
  | .connectionFailed _ c => some c
  | .io c => some c
  | _ => none

end Failure

end LinkCourier
