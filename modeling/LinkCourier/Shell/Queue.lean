import LinkCourier.Shell.Modules

/-!
The downloads that are waiting, in the order of their arrival. Numbers are given from 1 on;
they have 64 bits, and none is given again before all of them have been.
-/

namespace LinkCourier

structure Download where
  id : Nat
  link : Text
  loader : Module
  paused : Bool := false
  deriving DecidableEq, Repr

structure Queue where
  lastId : Nat := 0
  entries : List Download := []
  deriving DecidableEq, Repr

namespace Queue

def get? (q : Queue) (id : Nat) : Option Download := q.entries.find? (·.id = id)

/-- The number of the next download. -/
def nextId (q : Queue) : Nat := (q.lastId + 1) % UInt64.size

/-- Appends a download under the next number. -/
def push (q : Queue) (link : Text) (m : Module) : Download × Queue :=
  let d : Download := { id := q.nextId, link, loader := m }
  (d, { lastId := q.nextId, entries := q.entries ++ [d] })

/-- Takes the download of a number out of the queue. -/
def cancel (q : Queue) (id : Nat) : Option Download × Queue :=
  (q.get? id, { q with entries := q.entries.eraseP (·.id = id) })

/-- Changes the first entry of a number. -/
def updateFirst (f : Download → Download) (id : Nat) : List Download → List Download
  | [] => []
  | d :: ds => if d.id = id then f d :: ds else d :: updateFirst f id ds

/-- Pauses or resumes the download of a number, and says whether that changed it. -/
def setPaused (q : Queue) (id : Nat) (flag : Bool) : Option Bool × Queue :=
  ((q.get? id).map (·.paused != flag),
    { q with entries := updateFirst ({ · with paused := flag }) id q.entries })

end Queue

end LinkCourier
