import LinkCourier.Relay.Connection

/-!
A server: how it is bound, what becomes of it when it serves one connection after the other, and
what it says when it is stopped.
-/

namespace LinkCourier.Server

/-- A semaphore has no more permits than this. -/
def maxPermits : Nat := 0x1FFFFFFFFFFFFFFF

/-- Binds with checked settings; `free` says whether the place is free. -/
def bind (s : Settings) (free : Bool) : Except Failure Settings :=
  match s.check with
  | .error f => .error (.settings f)
  | .ok s => if free then .ok s else .error (.io (.system .addressInUse))

/-! ### One connection after the other -/

/-- A server with nothing left to do between two connections. -/
structure Running (σ : Type) where
  state : σ
  ledger : Ledger := {}

def Running.serve {σ : Type} (h : Handler σ) (s : Settings) (r : Running σ) (p : Peer) :
    Connection.Outcome σ × Running σ :=
  let o := Connection.serve h s p r.state
  (o, ⟨o.state, r.ledger.recordAll (.accepted :: o.entries)⟩)

/-- What is said of a server whose loop has panicked. -/
def loopPanicked : Failure := .io (.worded .other "accept loop panicked".toList)

/-- The counters of a server that has been stopped. A loop that was given more permits than a
semaphore has never ran. -/
def stop (s : Settings) (g : Ledger) : Except Failure Ledger :=
  if maxPermits < s.maxConnections.toNat then .error loopPanicked else .ok g

end LinkCourier.Server
