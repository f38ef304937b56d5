import LinkCourier.Relay.Connection

/-!
A connection as a task among others: it reads, has its command handled, answers and closes, with
its entries in the ledger in between. Between any two of these steps other connections have
theirs, so that the handler's state may change.
-/

namespace LinkCourier.Connection

open Ledger (Entry)

/-- Where a connection stands. -/
inductive Stage where
  | reading
  | dispatching (c : Command)
  | handling (c : Command)
  | failing (f : Failure)
  | responding (w : Bytes)
  | served (r : Except Failure Unit)
  | closing (r : Except Failure Unit)
  | closed (r : Except Failure Unit)
  | panicked

/-- What a result is entered as, if at all. A failure of the handler has been entered before. -/
def reported : Except Failure Unit → List Entry
  | .error f => if f.kind = .handler then [] else [.ioError]
  | .ok () => []

variable {σ : Type}

/-- One step of a connection: the stage after it, its entries and the handler's state. -/
def Stage.next (h : Handler σ) (s : Settings) (p : Peer) (st : σ) :
    Stage → Stage × List Entry × σ
  | .reading => match receive s p with
    | .error f => (.served (.error f), [], st)
    | .ok none => (.served (.ok ()), [], st)
    | .ok (some c) => (.dispatching c, [], st)
    | .panicked => (.panicked, [], st)
  | .dispatching c => (.handling c, [.dispatched], st)
  | .handling c => match h.handle st c with
    | (.error f, st) => (.failing f, [], st)
    | (.ok w, st) => (.responding w, [], st)
  | .failing f => (.served (.error (handlerFailure f)), [.handlerFailure], st)
  | .responding w => (.served (respond s p w), [], st)
  | .served r => (.closing r, reported r, st)
  | .closing r => (.closed r, [.closed], st)
  | .closed r => (.closed r, [], st)
  | .panicked => (.panicked, [], st)

/-- What is handed over for writing in a stage. -/
def Stage.written : Stage → Option Bytes
  | .responding w => some w
  | _ => none

/-- A connection that has been accepted: its peer, where it stands, the response that it has
handed over for writing and its own entries in the ledger. -/
structure Task where
  peer : Peer
  stage : Stage := .reading
  response : Option Bytes := none
  entries : List Entry := []

namespace Task

def next (h : Handler σ) (s : Settings) (st : σ) (t : Task) : Task × List Entry × σ :=
  let n := t.stage.next h s t.peer st
  ({ t with
      stage := n.1
      response := t.stage.written.or t.response
      entries := t.entries ++ n.2.1 },
    n.2)

/-- The connection has closed, with a result. -/
def finished (t : Task) : Bool := t.stage matches .closed _

def panicked (t : Task) : Bool := t.stage matches .panicked

/-- The task does nothing any more. -/
def isOver (t : Task) : Bool := t.finished || t.panicked

end Task

end LinkCourier.Connection
