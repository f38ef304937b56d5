import LinkCourier.Failure
import LinkCourier.Framing.Sequence

/-!
A client: one command in each connection, and the response until the daemon closes.

What happens to an exchange comes as a list of polls. A poll looks at the cancellation first,
then takes everything that has happened on the connection, and only then looks at the
deadline.
-/

namespace LinkCourier

structure Client where
  endpoint : Endpoint
  timeout : Duration
  limit : UInt64
  deriving DecidableEq, Repr

namespace Client

def ofSettings (s : Settings) : Client := ⟨s.endpoint, s.timeout, s.maxResponseBytes⟩

/-- A client with default deadline and limit. -/
def ofEndpoint (e : Endpoint) : Client := ofSettings { endpoint := e }

inductive Event where
  | connected
  | refused (e : IoError)
  | bytes (w : Bytes)
  | fault (e : IoError)
  | closed
  deriving DecidableEq, Repr, Inhabited

structure Poll where
  cancelled : Bool := false
  events : List Event := []
  expired : Bool := false
  deriving DecidableEq, Repr

inductive Phase where
  | connecting
  | receiving (got : Bytes)
  | finished (r : Except Failure Bytes)

/-- How far an exchange has come, and what it has sent. -/
structure Exchange where
  phase : Phase := .connecting
  sent : Option Bytes := none

/-- One event of the connection. The command is sent as soon as there is a connection; a
response over the limit is not waited for any longer. -/
def advance (c : Client) (command : Command) (x : Exchange) (e : Event) : Exchange :=
  match x.phase, e with
  | .connecting, .connected => ⟨.receiving [], some (Framing.encodeCommand command)⟩
  | .connecting, .refused e =>
    { x with phase := .finished (.error (.connectionFailed c.endpoint.text e)) }
  | .receiving got, .bytes w =>
    if c.limit.toNat < got.length + w.length then
      { x with phase := .finished (.error (.responseTooLarge c.limit)) }
    else { x with phase := .receiving (got ++ w) }
  | .receiving _, .fault e => { x with phase := .finished (.error (.io e)) }
  | .receiving got, .closed => { x with phase := .finished (.ok got) }
  | _, _ => x

/-- One poll of an exchange. -/
def poll (c : Client) (command : Command) (x : Exchange) (p : Poll) : Exchange :=
  if p.cancelled then { x with phase := .finished (.error .cancelled) }
  else
    let x := p.events.foldl (c.advance command) x
    match x.phase with
    | .finished _ => x
    | _ => if p.expired then { x with phase := .finished (.error (.timeout c.timeout)) } else x

/-- What an exchange comes to, if it comes to an end, and what it has sent, if it has made a
connection at all. -/
structure Outcome where
  result : Option (Except Failure Bytes)
  sent : Option Bytes

/-- Polls an exchange until it is finished. -/
def send (c : Client) (command : Command) (x : Exchange) : List Poll → Outcome
  | [] => ⟨none, x.sent⟩
  | p :: ps =>
    let x := c.poll command x p
    match x.phase with
    | .finished r => ⟨some r, x.sent⟩
    | _ => c.send command x ps

/-- Asks for the download of a link. A link that makes no command is refused without a
connection. -/
def submit (c : Client) (link : Text) (ps : List Poll) : Outcome :=
  match Command.download link with
  | .error f => ⟨some (.error (.invalidCommand f)), none⟩
  | .ok command => c.send command {} ps

/-- Someone who is told what a link has come to. -/
structure Completion (σ : Type) where
  finished : Bytes → σ → σ
  failed : Failure → σ → σ

/-- Submits a link for someone else. -/
def submitWith {σ : Type} (c : Client) (link : Text) (ps : List Poll) (completion : Completion σ)
    (st : σ) : σ :=
  match (c.submit link ps).result with
  | none => st
  | some (.ok w) => completion.finished w st
  | some (.error f) => completion.failed f st

end Client

end LinkCourier
