import LinkCourier.Relay.Task

/-!
A server as its connections see it: they are accepted and take their steps in any order, and
between two steps anything may become of the handler's state.
-/

namespace LinkCourier

open Connection (Task)

/-- A server with connections under way. -/
structure Serving (σ : Type) where
  state : σ
  ledger : Ledger := {}
  tasks : List Task := []

namespace Serving

variable {σ : Type}

/-- A connection is accepted, the connection of a number takes a step, or the handler's state
changes by itself, as it does if the handler does its work in more than one step. -/
inductive Event (σ : Type) where
  | accept (p : Peer)
  | step (i : Nat)
  | drift (st : σ)

/-- The server after an event. Without a connection of the number nothing happens. -/
def next (h : Handler σ) (s : Settings) (r : Serving σ) : Event σ → Serving σ
  | .accept p => { r with ledger := r.ledger.record .accepted, tasks := r.tasks ++ [{ peer := p }] }
  | .step i => match r.tasks[i]? with
    | none => r
    | some t =>
      let n := t.next h s r.state
      { state := n.2.2, ledger := r.ledger.recordAll n.2.1, tasks := r.tasks.set i n.1 }
  | .drift st => { r with state := st }

def run (h : Handler σ) (s : Settings) (r : Serving σ) (events : List (Event σ)) : Serving σ :=
  events.foldl (next h s) r

end Serving

end LinkCourier
