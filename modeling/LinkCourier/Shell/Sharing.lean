import LinkCourier.Shell.Execute

/-!
Sessions that share a store. Each session executes its lines in order, and each of its steps is
one call, one reply or the start of a line. A schedule says whose step is next, so that the calls
of a line may be separated by the steps of other sessions.
-/

namespace LinkCourier.Shell

variable {α : Type}

/-- A connection to the shell: what is left of its line, its lines to come and its replies. -/
structure Session where
  script : Script Reply := .done
  lines : List Line
  said : List Reply := []

/-- Sessions on one store, and the calls that have been made on it. -/
structure Shared where
  store : Store := {}
  sessions : List Session
  calls : List Call := []

/-- One step of a session: the session after it, its call if it makes one, and the store. -/
def Session.next (k : Link.Reader α) (s : Store) (x : Session) : Session × Option Call × Store :=
  match x.script, x.lines with
  | .reply r next, _ => ({ x with script := next, said := x.said ++ [r] }, none, s)
  | .call c next, _ => ({ x with script := next (c.run s).1 }, some c, (c.run s).2)
  | .done, l :: ls => ({ x with script := Shell.script k l, lines := ls }, none, s)
  | .done, [] => (x, none, s)

namespace Shared

/-- The next step of the session of a number. Without such a session nothing happens. -/
def step (k : Link.Reader α) (s : Shared) (i : Nat) : Shared :=
  match s.sessions[i]? with
  | none => s
  | some x =>
    { store := (x.next k s.store).2.2
      sessions := s.sessions.set i (x.next k s.store).1
      calls := s.calls ++ (x.next k s.store).2.1.toList }

/-- The sessions take the steps of a schedule. -/
def run (k : Link.Reader α) (s : Shared) (schedule : List Nat) : Shared :=
  schedule.foldl (step k) s

/-- A new shell with a session for each list of lines. -/
def start (lines : List (List Line)) : Shared := { sessions := lines.map fun ls => { lines := ls } }

/-- What all sessions have replied. -/
def replies (s : Shared) : List Reply := s.sessions.flatMap Session.said

end Shared

end LinkCourier.Shell
