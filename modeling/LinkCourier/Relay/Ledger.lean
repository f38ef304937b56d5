import LinkCourier.Text.Basic

/-!
What a server counts. Every connection makes its entries in order; the ledger of a server is
the sum of the entries of all its connections, in whatever order they come.
-/

namespace LinkCourier

structure Ledger where
  accepted : Nat := 0
  closed : Nat := 0
  dispatched : Nat := 0
  handlerFailures : Nat := 0
  ioErrors : Nat := 0
  deriving DecidableEq, Repr

namespace Ledger

inductive Entry where
  | accepted | closed | dispatched | handlerFailure | ioError
  deriving DecidableEq, Repr

def record (g : Ledger) : Entry → Ledger
  | .accepted => { g with accepted := g.accepted + 1 }
  | .closed => { g with closed := g.closed + 1 }
  | .dispatched => { g with dispatched := g.dispatched + 1 }
  | .handlerFailure => { g with handlerFailures := g.handlerFailures + 1 }
  | .ioError => { g with ioErrors := g.ioErrors + 1 }

def recordAll (g : Ledger) (es : List Entry) : Ledger := es.foldl record g

/-- Connections that are still open. -/
def inFlight (g : Ledger) : Nat := g.accepted - g.closed

end Ledger

end LinkCourier
