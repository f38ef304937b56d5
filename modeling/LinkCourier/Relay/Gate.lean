import LinkCourier.Relay.Server

/-!
The loop that accepts connections, with the permits that nobody has. It acquires a permit before
it accepts a connection, which takes the permit with it; and it may be left, once it has been
cancelled, where it waits for a permit or for a connection.
-/

namespace LinkCourier

/-- Where the loop stands, with connections of some type. It begins with making a semaphore;
between a failed accept and the next one it pauses, with its permit. -/
inductive Loop (π : Type) where
  | starting
  | acquiring
  | listening
  | accepted (p : π)
  | pausing
  | left
  | panicked

/-- The loop has a permit that no connection has been given. -/
def Loop.holds {π : Type} : Loop π → Bool
  | .listening | .accepted _ | .pausing => true
  | _ => false

structure Gate (π : Type) where
  free : Nat
  loop : Loop π := .starting
  cancelled : Bool := false

namespace Gate

variable {π : Type}

inductive Event (π : Type) where
  | start
  | acquire
  | accept (p : π)
  | acceptFailed
  | resume
  | spawn
  | leave
  | release
  | cancel

/-- A gate with a permit for each connection that there may be. -/
def make (s : Settings) : Gate π := { free := s.maxConnections.toNat }

/-- The gate after an event; `spawn` gives the connection that has been accepted away, `release`
brings a permit back. If the event cannot happen, nothing happens. Once it has been cancelled, the
loop may leave wherever it waits, but it may also win a permit or a connection instead. -/
def next (s : Settings) (g : Gate π) : Event π → Gate π
  | .start => match g.loop with
    | .starting => { g with
        loop := if Server.maxPermits < s.maxConnections.toNat then .panicked else .acquiring }
    | _ => g
  | .acquire => match g.loop, g.free with
    | .acquiring, n + 1 => { g with loop := .listening, free := n }
    | _, _ => g
  | .accept p => match g.loop with
    | .listening => { g with loop := .accepted p }
    | _ => g
  | .acceptFailed => match g.loop with
    | .listening => { g with loop := .pausing }
    | _ => g
  | .resume => match g.loop with
    | .pausing => { g with loop := .acquiring, free := g.free + 1 }
    | _ => g
  | .spawn => match g.loop with
    | .accepted _ => { g with loop := .acquiring }
    | _ => g
  | .leave => match g.cancelled, g.loop with
    | true, .acquiring => { g with loop := .left }
    | true, .listening => { g with loop := .left, free := g.free + 1 }
    | _, _ => g
  | .release => { g with free := g.free + 1 }
  | .cancel => { g with cancelled := true }

/-- How many connections have a permit: all permits that are neither free nor the loop's. -/
def inside (s : Settings) (g : Gate π) : Nat :=
  s.maxConnections.toNat - (g.free + g.loop.holds.toNat)

end Gate

end LinkCourier
