import LinkCourier.Proofs.Relay.Accounts
import LinkCourier.Relay.Service

/-!
What one event can do to a server. Whatever holds at its start and is kept by each of these moves
holds at any time.
-/

namespace LinkCourier

open Connection (Task)

deriving instance DecidableEq for Stopping

namespace Service

variable {σ : Type}

/-- Everything that can happen in one step. -/
inductive Move (h : Handler σ) (s : Settings) (r : Service σ) : Event σ → Service σ → Prop where
  | panic (hl : r.loop = .starting) (hmax : Server.maxPermits < s.maxConnections.toNat) :
    Move h s r .start { r with loop := .panicked }
  | start (hl : r.loop = .starting) (hmax : s.maxConnections.toNat ≤ Server.maxPermits) :
    Move h s r .start { r with loop := .acquiring }
  | acquire {n : Nat} (hl : r.loop = .acquiring) (hn : r.free = n + 1) :
    Move h s r .acquire { r with loop := .listening, free := n }
  | accept (p : Peer) (hl : r.loop = .listening) :
    Move h s r (.accept p) { r with loop := .accepted p, ledger := r.ledger.record .accepted }
  | acceptFailed (hl : r.loop = .listening) : Move h s r .acceptFailed { r with loop := .pausing }
  | resume (hl : r.loop = .pausing) :
    Move h s r .resume { r with loop := .acquiring, free := r.free + 1 }
  | spawn {p : Peer} (hl : r.loop = .accepted p) :
    Move h s r .spawn { r with
      loop := .acquiring
      tasks := r.tasks ++ [{ task := { peer := p } }] }
  | leaveAcquiring (hc : r.cancelled = true) (hl : r.loop = .acquiring) :
    Move h s r .leave { r with loop := .left }
  | leaveListening (hc : r.cancelled = true) (hl : r.loop = .listening) :
    Move h s r .leave { r with loop := .left, free := r.free + 1 }
  | step {i : Nat} {u v : List Tracked} {t : Tracked} (ht : r.tasks = u ++ t :: v) :
    Move h s r (.step i) { r with
      state := (t.task.next h s r.state).2.2
      ledger := r.ledger.recordAll (t.task.next h s r.state).2.1
      tasks := u ++ { t with task := (t.task.next h s r.state).1 } :: v }
  | release {i : Nat} {u v : List Tracked} {t : Task} (ht : r.tasks = u ++ ⟨t, .permit⟩ :: v)
    (ho : t.isOver) :
    Move h s r (.release i) { r with free := r.free + 1, tasks := u ++ ⟨t, .place⟩ :: v }
  | forget {i : Nat} {u v : List Tracked} {t : Task} (ht : r.tasks = u ++ ⟨t, .place⟩ :: v) :
    Move h s r (.forget i) { r with tasks := u ++ ⟨t, .nothing⟩ :: v }
  | drift (st : σ) : Move h s r (.drift st) { r with state := st }
  | cancel : Move h s r .cancel { r with cancelled := true }
  | stop (hs : r.stopping = .idle) :
    Move h s r .stop { r with cancelled := true, stopping := .joining }
  | join (hs : r.stopping = .joining) (hl : r.loop = .left) :
    Move h s r .join { r with stopping := .joined }
  | fail (hs : r.stopping = .joining) (hl : r.loop = .panicked) :
    Move h s r .join { r with stopping := .returned (.error Server.loopPanicked) }
  | closeTracker (hs : r.stopping = .joined) :
    Move h s r .closeTracker { r with stopping := .waiting }
  | drain (hs : r.stopping = .waiting) (hall : ∀ t ∈ r.tasks, t.hold = .nothing) :
    Move h s r .drain { r with stopping := .drained }
  | readLedger (hs : r.stopping = .drained) :
    Move h s r .readLedger { r with stopping := .returned (.ok r.ledger) }

variable {h : Handler σ} {s : Settings} {r r' : Service σ}

lemma next_cases (h : Handler σ) (s : Settings) (r : Service σ) (e : Event σ) :
    r.next h s e = r ∨ Move h s r e (r.next h s e) := by
  cases e with
  | start =>
    rw [next, Gate.next]
    split
    · rename_i hl
      split
      · exact .inr (.panic hl ‹_›)
      · exact .inr (.start hl (Nat.le_of_not_lt ‹_›))
    · exact .inl rfl
  | acquire =>
    rw [next, Gate.next]
    split
    · exact .inr (.acquire ‹_› ‹_›)
    · exact .inl rfl
  | accept p =>
    rw [next]
    split
    · rename_i hl
      rw [Gate.next, hl]
      exact .inr (.accept p hl)
    · exact .inl rfl
  | acceptFailed =>
    rw [next, Gate.next]
    split
    · exact .inr (.acceptFailed ‹_›)
    · exact .inl rfl
  | resume =>
    rw [next, Gate.next]
    split
    · exact .inr (.resume ‹_›)
    · exact .inl rfl
  | spawn =>
    rw [next]
    split
    · rename_i p hl
      rw [Gate.next, hl]
      exact .inr (.spawn hl)
    · exact .inl rfl
  | leave =>
    rw [next, Gate.next]
    split
    · exact .inr (.leaveAcquiring ‹_› ‹_›)
    · exact .inr (.leaveListening ‹_› ‹_›)
    · exact .inl rfl
  | step i =>
    rw [next]
    split
    · exact .inl rfl
    · rename_i t hi
      obtain ⟨u, v, ht, hset⟩ := Parties.exists_around hi
      simp only [hset]
      exact .inr (.step ht)
  | release i =>
    rw [next]
    split
    · rename_i t hi
      obtain ⟨u, v, ht, hset⟩ := Parties.exists_around hi
      split
      · rw [hset]
        exact .inr (.release ht ‹_›)
      · exact .inl rfl
    · exact .inl rfl
  | forget i =>
    rw [next]
    split
    · rename_i t hi
      obtain ⟨u, v, ht, hset⟩ := Parties.exists_around hi
      rw [hset]
      exact .inr (.forget ht)
    · exact .inl rfl
  | drift st => exact .inr (.drift st)
  | cancel => exact .inr .cancel
  | stop =>
    rw [next]
    split
    · exact .inr (.stop ‹_›)
    · exact .inl rfl
  | join =>
    rw [next]
    split
    · exact .inr (.join ‹_› ‹_›)
    · exact .inr (.fail ‹_› ‹_›)
    · exact .inl rfl
  | closeTracker =>
    rw [next]
    split
    · exact .inr (.closeTracker ‹_›)
    · exact .inl rfl
  | drain =>
    rw [next]
    split
    · split
      · rename_i hall
        exact .inr (.drain ‹_› (by simpa using hall))
      · exact .inl rfl
    · exact .inl rfl
  | readLedger =>
    rw [next]
    split
    · exact .inr (.readLedger ‹_›)
    · exact .inl rfl

/-- What every move keeps is kept by a run. -/
lemma run_keeps {P : Service σ → Prop} (hmove : ∀ r e r', P r → Move h s r e r' → P r') (hr : P r)
    (events : List (Event σ)) : P (r.run h s events) := by
  refine List.foldlRecOn events _ hr fun r hr e _ => ?_
  rcases next_cases h s r e with hsame | hm
  · rwa [hsame]
  · exact hmove r e _ hr hm

end Service

end LinkCourier
