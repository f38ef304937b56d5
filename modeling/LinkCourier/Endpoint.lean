import LinkCourier.Text.Blank
import LinkCourier.Text.Decimal

/-!
Where a daemon listens: a host that is not blank and a port from 1 to 65535. In writing, a
host with a colon in it stands in brackets.
-/

namespace LinkCourier

structure Endpoint where
  host : Text
  port : UInt16
  deriving DecidableEq, Repr

namespace Endpoint

def defaultHost : String := "127.0.0.1"
def defaultPort : UInt16 := 9999

instance : Inhabited Endpoint := ⟨⟨defaultHost.toList, defaultPort⟩⟩

inductive Fault where
  | noPort (text : Text)
  | badPort (text : Text)
  | portTooLarge (port : Nat)
  | blankHost
  | zeroPort
  deriving DecidableEq, Repr

def Fault.message : Fault → String
  | .noPort t => s!"Expected host:port, got '{String.ofList t}'"
  | .badPort t => s!"Invalid port in '{String.ofList t}'"
  | .portTooLarge port => s!"Port {port} out of range 1-65535"
  | .blankHost => "Endpoint host is empty"
  | .zeroPort => "Endpoint port must be in range 1-65535"

/-- What keeps an endpoint from being used; the host is looked at first. -/
def fault? (e : Endpoint) : Option Fault :=
  if Text.isBlankText e.host then some .blankHost
  else if e.port = 0 then some .zeroPort
  else none

def make (host : Text) (port : UInt16) : Except Fault Endpoint :=
  match fault? ⟨host, port⟩ with
  | some f => .error f
  | none => .ok ⟨host, port⟩

/-- An endpoint from a port that may be too large; the port is looked at first. -/
def ofNumber (host : Text) (port : Nat) : Except Fault Endpoint :=
  if port < 65536 then make host port.toUInt16 else .error (.portTooLarge port)

/-- Takes one pair of brackets away. -/
def unbracket (host : Text) : Text :=
  match host with
  | '[' :: r => if r.getLast? = some ']' then r.dropLast else host
  | _ => host

/-- Cuts a text at its last colon. -/
def cut? (t : Text) : Option (Text × Text) :=
  match t.reverse.span (· != ':') with
  | (_, []) => none
  | (back, _ :: front) => some (front.reverse, back.reverse)

def ofText (t : Text) : Except Fault Endpoint :=
  match cut? t with
  | none => .error (.noPort t)
  | some (host, port) => match Decimal.readBelow UInt32.size port with
    | none => .error (.badPort t)
    | some n => ofNumber (unbracket host) n

def text (e : Endpoint) : Text :=
  let port := ':' :: Decimal.digits e.port.toNat
  if ':' ∈ e.host then '[' :: e.host ++ ']' :: port else e.host ++ port

end Endpoint

end LinkCourier
