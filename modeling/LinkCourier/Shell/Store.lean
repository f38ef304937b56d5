import LinkCourier.Shell.Queue

/-!
What the connections of a daemon share, and the calls they make on it. Every call is one
step; between two calls of one connection others may have theirs. A script is what one line
does: calls, and replies that may depend on their results.
-/

namespace LinkCourier

structure Store where
  modules : Modules := {}
  queue : Queue := {}
  deriving DecidableEq, Repr

inductive Call where
  | load (name : Text)
  | unload (name : Text)
  | loaded
  | has (m : Module)
  | push (link : Text) (m : Module)
  | list
  | cancel (id : Nat)
  | setPaused (id : Nat) (flag : Bool)
  deriving DecidableEq, Repr

namespace Call

abbrev Result : Call → Type
  | .load _ => Option Bool
  | .unload _ => Bool
  | .loaded => List Module
  | .has _ => Bool
  | .push _ _ => Download
  | .list => List Download
  | .cancel _ => Option Download
  | .setPaused _ _ => Option Bool

def run (s : Store) : (c : Call) → c.Result × Store
  | .load name => let (r, m) := s.modules.load name; (r, { s with modules := m })
  | .unload name => let (r, m) := s.modules.unload name; (r, { s with modules := m })
  | .loaded => (s.modules.toList, s)
  | .has m => (s.modules.has m, s)
  | .push link m => let (r, q) := s.queue.push link m; (r, { s with queue := q })
  | .list => (s.queue.entries, s)
  | .cancel id => let (r, q) := s.queue.cancel id; (r, { s with queue := q })
  | .setPaused id flag => let (r, q) := s.queue.setPaused id flag; (r, { s with queue := q })

end Call

/-- Calls and replies of type `ρ`. -/
inductive Script (ρ : Type) where
  | done
  | reply (r : ρ) (next : Script ρ)
  | call (c : Call) (next : c.Result → Script ρ)

namespace Script

variable {ρ : Type}

/-- Follows a script with another one. -/
def andThen (k : Script ρ) : Script ρ → Script ρ
  | .done => k
  | .reply r next => .reply r (andThen k next)
  | .call c next => .call c fun x => andThen k (next x)

/-- Replies one after the other. -/
def replies : List ρ → Script ρ
  | [] => .done
  | r :: rs => .reply r (replies rs)

/-- The same calls for each of several values, with one reply each. -/
def forEach {α : Type} (f : α → Script ρ) : List α → Script ρ
  | [] => .done
  | a :: as => andThen (forEach f as) (f a)

/-- Runs a script with no other connection in between. -/
def run (s : Store) : Script ρ → List ρ × Store
  | .done => ([], s)
  | .reply r next => let (rs, s) := run s next; (r :: rs, s)
  | .call c next => let (x, s) := c.run s; run s (next x)

@[simp] theorem run_andThen (s : Store) (a k : Script ρ) :
    run s (andThen k a) = ((run s a).1 ++ (run (run s a).2 k).1, (run (run s a).2 k).2) := by
  induction a generalizing s with
  | done => simp [andThen, run]
  | reply r next ih => simp [andThen, run, ih]
  | call c next ih => simp [andThen, run, ih]

@[simp] theorem run_replies (s : Store) (rs : List ρ) : run s (replies rs) = (rs, s) := by
  induction rs with
  | nil => rfl
  | cons r rs ih => simp [replies, run, ih]

end Script

end LinkCourier
