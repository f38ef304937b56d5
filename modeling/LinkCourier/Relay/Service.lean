import LinkCourier.Relay.Gate
import LinkCourier.Relay.Serving

/-!
A server from its start to its end: the loop that accepts connections, the tasks of the
connections, and the one who stops it. Each of them takes its steps between those of the others.

The task of a connection gives its permit back after the connection has counted itself closed, or
has panicked. Stopping cancels the loop and waits for it, then closes the tracker of the tasks,
waits until it has forgotten all of them, and reads the ledger. A connection is counted before it
has a task, and the loop does nothing else in between, so that whoever has seen the loop end has
seen all tasks.
-/

namespace LinkCourier

open Connection (Task)

/-- What a task still has: its permit, or at least its place in the tracker. -/
inductive Hold where
  | permit
  | place
  | nothing
  deriving DecidableEq

structure Tracked where
  task : Task
  hold : Hold := .permit

/-- How far stopping has come. -/
inductive Stopping where
  | idle
  | joining
  | joined
  | waiting
  | drained
  | returned (r : Except Failure Ledger)

structure Service (σ : Type) extends Gate Peer where
  state : σ
  ledger : Ledger := {}
  tasks : List Tracked := []
  stopping : Stopping := .idle

namespace Service

variable {σ : Type}

/-- Steps of the loop, of a task by its number, of the handler's state by itself, and of the one
who stops the server. It may also be cancelled by someone else. -/
inductive Event (σ : Type) where
  | start
  | acquire
  | accept (p : Peer)
  | acceptFailed
  | resume
  | spawn
  | leave
  | step (i : Nat)
  | release (i : Nat)
  | forget (i : Nat)
  | drift (st : σ)
  | cancel
  | stop
  | join
  | closeTracker
  | drain
  | readLedger

/-- A server with its settings, before its loop has begun. -/
def launch (s : Settings) (st : σ) : Service σ := { Gate.make s with state := st }

/-- The server after an event. If the event cannot happen, nothing happens. -/
def next (h : Handler σ) (s : Settings) (r : Service σ) : Event σ → Service σ
  | .start => { r with toGate := r.toGate.next s .start }
  | .acquire => { r with toGate := r.toGate.next s .acquire }
  | .accept p => match r.loop with
    | .listening => { r with
        toGate := r.toGate.next s (.accept p)
        ledger := r.ledger.record .accepted }
    | _ => r
  | .acceptFailed => { r with toGate := r.toGate.next s .acceptFailed }
  | .resume => { r with toGate := r.toGate.next s .resume }
  | .spawn => match r.loop with
    | .accepted p => { r with
        toGate := r.toGate.next s .spawn
        tasks := r.tasks ++ [{ task := { peer := p } }] }
    | _ => r
  | .leave => { r with toGate := r.toGate.next s .leave }
  | .step i => match r.tasks[i]? with
    | none => r
    | some t =>
      let n := t.task.next h s r.state
      { r with
        state := n.2.2
        ledger := r.ledger.recordAll n.2.1
        tasks := r.tasks.set i { t with task := n.1 } }
  | .release i => match r.tasks[i]? with
    | some ⟨t, .permit⟩ =>
      if t.isOver then { r with
        toGate := r.toGate.next s .release
        tasks := r.tasks.set i ⟨t, .place⟩ }
      else r
    | _ => r
  | .forget i => match r.tasks[i]? with
    | some ⟨t, .place⟩ => { r with tasks := r.tasks.set i ⟨t, .nothing⟩ }
    | _ => r
  | .drift st => { r with state := st }
  | .cancel => { r with toGate := r.toGate.next s .cancel }
  | .stop => match r.stopping with
    | .idle => { r with toGate := r.toGate.next s .cancel, stopping := .joining }
    | _ => r
  | .join => match r.stopping, r.loop with
    | .joining, .left => { r with stopping := .joined }
    | .joining, .panicked => { r with stopping := .returned (.error Server.loopPanicked) }
    | _, _ => r
  | .closeTracker => match r.stopping with
    | .joined => { r with stopping := .waiting }
    | _ => r
  | .drain => match r.stopping with
    | .waiting => if r.tasks.all (·.hold = .nothing) then { r with stopping := .drained } else r
    | _ => r
  | .readLedger => match r.stopping with
    | .drained => { r with stopping := .returned (.ok r.ledger) }
    | _ => r

def run (h : Handler σ) (s : Settings) (r : Service σ) (events : List (Event σ)) : Service σ :=
  events.foldl (next h s) r

end Service

end LinkCourier
