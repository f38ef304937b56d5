import LinkCourier.Framing.Stream
import LinkCourier.Relay.Handler
import LinkCourier.Relay.Ledger

/-!
One connection as a server serves it: a command is read, handled and answered, and the
connection is closed on every path that comes back. A client that goes away is no failure; a
sequence that cannot be read to its end is never handled. Where reading panics nothing comes back:
the connection is gone, and it is entered neither as failed nor as closed.
-/

namespace LinkCourier

/-- What comes of writing a response. -/
inductive Delivery where
  | written
  | fault (e : IoError)
  | stalled
  deriving DecidableEq, Repr

/-- The other side of a connection: what it sends, and what it lets through of a response. -/
structure Peer where
  arrivals : List Framing.Arrival
  delivery : Bytes → Delivery := fun _ => .written

namespace Connection

/-- What a connection comes to: its result, the response handed over for writing, its entries
in the ledger and the state that the handler leaves. -/
structure Outcome (σ : Type) where
  result : Result Failure Unit
  response : Option Bytes
  entries : List Ledger.Entry
  state : σ

/-- Whether it takes more than has arrived to know what comes of a command. -/
def isOpen (s : Settings) (arrivals : List Framing.Arrival) : Bool :=
  match (({ limit := s.maxLineBytes } : Framing.Codec).readCommand
      (arrivals ++ [.silence])).1.answer with
  | .waiting => true
  | .done _ => false

/-- The command of a peer; there is none if it ends or goes away before its first line. -/
def receive (s : Settings) (p : Peer) : Result Failure (Option Command) :=
  match (({ limit := s.maxLineBytes } : Framing.Codec).readCommand p.arrivals).1.answer with
  | .waiting => .error (.timeout s.readTimeout)
  | .done (.ok c) => .ok c
  | .done (.error f) => if f.isDisconnect then .ok none else .error f
  | .done .panicked => .panicked

def respond (s : Settings) (p : Peer) (w : Bytes) : Except Failure Unit :=
  match p.delivery w with
  | .written => .ok ()
  | .fault e => if e.isDisconnect then .ok () else .error (.io e)
  | .stalled => .error (.timeout s.writeTimeout)

/-- A handler fails with a reason, whatever the kind of its failure. -/
def handlerFailure : Failure → Failure
  | .handler reason => .handler reason
  | f => .handler f.message.toList

def serve {σ : Type} (h : Handler σ) (s : Settings) (p : Peer) (st : σ) : Outcome σ :=
  match receive s p with
  | .panicked => ⟨.panicked, none, [], st⟩
  | .error f => ⟨.error f, none, [.ioError, .closed], st⟩
  | .ok none => ⟨.ok (), none, [.closed], st⟩
  | .ok (some c) => match h.handle st c with
    | (.error f, st) =>
      ⟨.error (handlerFailure f), none, [.dispatched, .handlerFailure, .closed], st⟩
    | (.ok w, st) => match respond s p w with
      | .ok () => ⟨.ok (), some w, [.dispatched, .closed], st⟩
      | .error f => ⟨.error f, some w, [.dispatched, .ioError, .closed], st⟩

/-- Serves peers in turn; each connection leaves its state to the next one. -/
def serveAll {σ : Type} (h : Handler σ) (s : Settings) (st : σ) : List Peer → List (Outcome σ) × σ
  | [] => ([], st)
  | p :: ps =>
    let o := serve h s p st
    let (os, st) := serveAll h s o.state ps
    (o :: os, st)

end Connection

end LinkCourier
