import Mathlib.Algebra.GroupWithZero.Nat
import LinkCourier.Proofs.Relay.Draining

/-!
Stopping comes to an end, and what it comes to depends on two settings: whether a semaphore can have
a permit for each connection, and whether a number is left above the limit for a line. The check of
the settings looks at neither.
-/

namespace LinkCourier

namespace Connection

/-! ### What is still to be done -/

/-- How many steps a connection has before it at most. -/
def Stage.remaining : Stage → ℕ
  | .reading => 6
  | .dispatching _ => 5
  | .handling _ => 4
  | .failing _ | .responding _ => 3
  | .served _ => 2
  | .closing _ => 1
  | .closed _ | .panicked => 0

/-- A connection comes nearer to its end with each step. -/
lemma Task.remaining_next_lt {σ : Type} {t : Task} (ht : t.isOver = false) (h : Handler σ)
    (s : Settings) (st : σ) : (t.next h s st).1.stage.remaining < t.stage.remaining := by
  obtain ⟨p, x, w, es⟩ := t
  rw [Task.next]
  cases x with
  | reading =>
    rw [Stage.next]
    split <;> simp [Stage.remaining]
  | handling c =>
    rw [Stage.next]
    split <;> simp [Stage.remaining]
  | dispatching | failing | responding | served | closing => simp [Stage.next, Stage.remaining]
  | closed | panicked => cases ht

end Connection

def Loop.remaining : Loop Peer → ℕ
  | .starting => 3
  | .acquiring => 2
  | .listening => 1
  | .pausing => 3
  | .accepted _ => 11
  | .left | .panicked => 0

def Hold.remaining : Hold → ℕ
  | .permit => 2
  | .place => 1
  | .nothing => 0

def Tracked.remaining (t : Tracked) : ℕ := t.task.stage.remaining + t.hold.remaining

def Stopping.remaining : Stopping → ℕ
  | .idle => 5
  | .joining => 4
  | .joined => 3
  | .waiting => 2
  | .drained => 1
  | .returned _ => 0

namespace Service

variable {σ : Type} {h : Handler σ} {s : Settings} {r r' : Service σ} {e : Event σ}

/-- How many steps a server has before it at most, if no more connections come. -/
def remaining (r : Service σ) : ℕ :=
  r.loop.remaining + (r.tasks.map Tracked.remaining).sum + r.stopping.remaining

/-- A step of the server by itself or of the one who stops it: nobody connects, no accept fails, and
nobody else has a hand in it. -/
def Event.own : Event σ → Bool
  | .accept _ | .acceptFailed | .drift _ | .cancel => false
  | _ => true

/-- **Every step** of its own brings a server nearer to its end, if it does anything at all. -/
theorem Move.remaining_lt (hm : Move h s r e r') (he : e.own) :
    r' = r ∨ r'.remaining < r.remaining := by
  cases hm with
  | panic hl | start hl | acquire hl | resume hl | leaveAcquiring _ hl | leaveListening _ hl =>
    exact .inr (by simp [remaining, hl, Loop.remaining])
  | spawn hl =>
    refine .inr ?_
    simp only [remaining, hl, Loop.remaining, List.map_append, List.map_singleton, List.sum_append,
      List.sum_singleton, Tracked.remaining, Connection.Stage.remaining, Hold.remaining]
    omega
  | @step i u v t ht =>
    cases hover : t.task.isOver with
    | true =>
      refine .inl ?_
      rw [Connection.Task.next_of_isOver hover, ← ht]
      rfl
    | false =>
      have hlt := Connection.Task.remaining_next_lt hover h s r.state
      refine .inr ?_
      simp only [remaining, ht, List.map_append, List.map_cons, List.sum_append, List.sum_cons,
        Tracked.remaining]
      omega
  | release ht | forget ht =>
    refine .inr ?_
    simp only [remaining, ht, List.map_append, List.map_cons, List.sum_append, List.sum_cons,
      Tracked.remaining, Hold.remaining]
    omega
  | stop hs | join hs | fail hs | closeTracker hs | drain hs | readLedger hs =>
    exact .inr (by simp [remaining, hs, Stopping.remaining])
  | accept | acceptFailed | drift | cancel => cases he

/-- A task that the tracker has not forgotten has a step before it. -/
lemma exists_own_of_task (h : Handler σ) (s : Settings) {t : Tracked} (ht : t ∈ r.tasks)
    (hhold : t.hold ≠ .nothing) : ∃ e : Event σ, e.own ∧ r.next h s e ≠ r := by
  obtain ⟨i, hi⟩ := List.getElem?_of_mem ht
  have hset {t' : Tracked} (hne : t' ≠ t) : r.tasks.set i t' ≠ r.tasks := by
    obtain ⟨u, v, htasks, hset⟩ := Parties.exists_around hi
    rw [hset, htasks]
    simpa using hne
  obtain ⟨t, hold⟩ := t
  cases hold with
  | nothing => exact absurd rfl hhold
  | place =>
    refine ⟨.forget i, rfl, ne_of_apply_ne tasks ?_⟩
    simp only [next, hi]
    exact hset (by simp)
  | permit =>
    cases hover : t.isOver with
    | true =>
      refine ⟨.release i, rfl, ne_of_apply_ne tasks ?_⟩
      simp only [next, hi, hover, if_true]
      exact hset (by simp)
    | false =>
      have hlt := Connection.Task.remaining_next_lt hover h s r.state
      refine ⟨.step i, rfl, ne_of_apply_ne tasks ?_⟩
      simp only [next, hi]
      refine hset fun heq => ?_
      rw [(Tracked.mk.inj heq).1] at hlt
      exact Nat.lt_irrefl _ hlt

/-- **Progress**: as long as stopping has not returned, a server has a step of its own. -/
theorem Intact.exists_own (hr : r.Intact h s) (hnot : ∀ x, r.stopping ≠ .returned x) :
    ∃ e : Event σ, e.own ∧ r.next h s e ≠ r := by
  have hreached := hr.reached
  rw [Reached] at hreached
  have hloop {e : Event σ} (he : e.own) (hne : (r.next h s e).loop ≠ r.loop) :
      ∃ e : Event σ, e.own ∧ r.next h s e ≠ r :=
    ⟨e, he, ne_of_apply_ne (fun r => r.loop) hne⟩
  have hstopping {e : Event σ} (he : e.own) (hne : (r.next h s e).stopping ≠ r.stopping) :
      ∃ e : Event σ, e.own ∧ r.next h s e ≠ r :=
    ⟨e, he, ne_of_apply_ne stopping hne⟩
  cases hs : r.stopping with
  | idle => exact hstopping (e := .stop) rfl (by simp [next, hs])
  | joining =>
    rw [hs] at hreached
    cases hl : r.loop with
    | starting =>
      refine hloop (e := .start) rfl ?_
      simp only [next, Gate.next, hl]
      split <;> simp
    | acquiring | listening =>
      exact hloop (e := .leave) rfl (by simp [next, Gate.next, hl, hreached])
    | accepted p => exact hloop (e := .spawn) rfl (by simp [next, Gate.next, hl])
    | pausing => exact hloop (e := .resume) rfl (by simp [next, Gate.next, hl])
    | left | panicked => exact hstopping (e := .join) rfl (by simp [next, hs, hl])
  | joined => exact hstopping (e := .closeTracker) rfl (by simp [next, hs])
  | waiting =>
    by_cases hall : ∀ t ∈ r.tasks, t.hold = .nothing
    · have hdrain : r.tasks.all (·.hold = .nothing) = true := by simpa using hall
      exact hstopping (e := .drain) rfl (by simp [next, hs, hdrain])
    · obtain ⟨t, ht⟩ := not_forall.1 hall
      obtain ⟨hmem, hhold⟩ := Classical.not_imp.1 ht
      exact exists_own_of_task h s hmem hhold
  | drained => exact hstopping (e := .readLedger) rfl (by simp [next, hs])
  | returned x => exact absurd hs (hnot x)

/-- However a server takes its steps, stopping returns: it has, or there is a step, and it returns
after whichever one is taken. -/
inductive Returns (h : Handler σ) (s : Settings) : Service σ → Prop where
  | returned {r : Service σ} {x : Except Failure Ledger} (hx : r.stopping = .returned x) :
    Returns h s r
  | step {r : Service σ} (hex : ∃ e : Event σ, e.own ∧ r.next h s e ≠ r)
    (hall : ∀ e : Event σ, e.own → r.next h s e ≠ r → Returns h s (r.next h s e)) : Returns h s r

/-- **Stopping returns**, whoever has connected before. -/
theorem Intact.returns (hr : r.Intact h s) : Returns h s r := by
  induction hn : r.remaining using Nat.strongRecOn generalizing r with
  | ind n ih =>
    by_cases hret : ∃ x, r.stopping = .returned x
    · obtain ⟨x, hx⟩ := hret
      exact .returned hx
    · refine .step (hr.exists_own fun x hx => hret ⟨x, hx⟩) fun e he hne => ?_
      have hmove := (next_cases h s r e).resolve_left hne
      have hlt := (hmove.remaining_lt he).resolve_left hne
      exact ih _ (hn ▸ hlt) (hr.move hmove) rfl

/-! ### What stopping comes to -/

/-- The loop panics only if a semaphore cannot have that many permits. -/
lemma Intact.loop_ne_panicked (hr : r.Intact h s)
    (hmax : s.maxConnections.toNat ≤ Server.maxPermits) : r.loop ≠ .panicked := by
  intro hl
  have hbegun := hr.begun
  rw [Begun, hl] at hbegun
  exact absurd hmax (Nat.not_le_of_lt hbegun.2)

/-- If it cannot, nobody leaves the loop. -/
lemma Intact.le_of_left (hr : r.Intact h s) (hl : r.loop = .left) :
    s.maxConnections.toNat ≤ Server.maxPermits := by
  have hbegun := hr.begun
  rwa [Begun, hl] at hbegun

/-- What stopping returns is what becomes of the counters of a server with these settings. -/
theorem Intact.returned_eq (hr : r.Intact h s) {x : Except Failure Ledger}
    (hx : r.stopping = .returned x) : x = Server.stop s r.ledger := by
  rw [Server.stop]
  split
  · rename_i hmax
    cases x with
    | error f =>
      have hreached := hr.reached
      rw [Reached, hx] at hreached
      rw [hreached.2]
    | ok g =>
      have hle := hr.le_of_left (hr.over_of_returned hx).1.left
      exact absurd hle (Nat.not_le_of_lt hmax)
  · rename_i hmax
    cases x with
    | error f =>
      have hreached := hr.reached
      rw [Reached, hx] at hreached
      exact absurd hreached.1 (hr.loop_ne_panicked (Nat.le_of_not_lt hmax))
    | ok g => rw [(hr.over_of_returned hx).2]

/-- What is expected of a server whose settings have been checked. -/
structure Usable (h : Handler σ) (s : Settings) (r : Service σ) : Prop where
  running : r.loop ≠ .panicked
  returns : Returns h s r
  closed : ∀ x, r.stopping = .returned x → ∃ g, x = .ok g ∧ g.closed = g.accepted

lemma Intact.closed_of_returned (hr : r.Intact h s)
    (hmax : s.maxConnections.toNat ≤ Server.maxPermits) (hgone : r.gone = 0)
    {x : Except Failure Ledger} (hx : r.stopping = .returned x) :
    ∃ g, x = .ok g ∧ g.closed = g.accepted := by
  have hstop := hr.returned_eq hx
  rw [Server.stop, if_neg (Nat.not_lt_of_le hmax)] at hstop
  subst hstop
  have hclosed := hr.closed_eq_of_over (hr.over_of_returned hx).1
  rw [hgone] at hclosed
  exact ⟨r.ledger, rfl, hclosed⟩

/-- Without a permit no connection is accepted. -/
lemma tasks_eq_nil (hzero : s.maxConnections = 0) (st : σ) (events : List (Event σ)) :
    (run h s (launch s st) events).tasks = [] := by
  have hkept : ∀ (r : Service σ) e r', r.Intact h s ∧ r.tasks = [] → Move h s r e r' →
      r'.Intact h s ∧ r'.tasks = [] := by
    rintro r e r' ⟨hr, hnil⟩ hm
    refine ⟨hr.move hm, ?_⟩
    cases hm with
    | spawn hl =>
      have hpermits := hr.permits
      simp [permits, hl, Loop.holds, hzero] at hpermits
    | step ht | release ht | forget ht => simp [hnil] at ht
    | panic | start | acquire | accept | acceptFailed | resume | leaveAcquiring | leaveListening
      | drift | cancel | stop | join | fail | closeTracker | drain | readLedger => exact hnil
  exact (run_keeps hkept ⟨intact_launch h s st, rfl⟩ events).2

/-- With the largest limit for a line, a connection that is accepted is never closed. -/
lemma stop_of_largest (hmax : s.maxConnections.toNat ≤ Server.maxPermits)
    (hpos : s.maxConnections ≠ 0) (hline : ¬ s.maxLineBytes.toNat + 1 < UInt64.size) (st : σ) :
    (run h s (launch s st) [.start, .acquire, .accept { arrivals := [] }, .spawn, .step 0,
      .release 0, .forget 0, .stop, .leave, .join, .closeTracker, .drain, .readLedger]).stopping =
      .returned (.ok { accepted := 1 }) := by
  have hpanic : Connection.receive s { arrivals := [] } = .panicked :=
    Connection.receive_eq_panicked_iff.2 hline
  obtain ⟨n, hn⟩ : ∃ n, s.maxConnections.toNat = n + 1 := by
    refine Nat.exists_eq_succ_of_ne_zero fun hzero => hpos ?_
    exact UInt64.toNat_inj.1 hzero
  have hpermits : ¬ Server.maxPermits < n + 1 := by omega
  simp [run, launch, next, Gate.next, Gate.make, Connection.Task.next, Connection.Stage.next,
    hpanic, hn, hpermits, Connection.Task.isOver, Connection.Task.finished,
    Connection.Task.panicked, Ledger.record, Ledger.recordAll]

/-- **Which settings can be used**: those by which there are no more connections than a semaphore
can have permits, and by which, if there are any connections, the limit for a line is not the
largest one; and no others. -/
theorem usable_iff (h : Handler σ) (s : Settings) (st : σ) :
    (∀ events, Usable h s (run h s (launch s st) events)) ↔
      s.maxConnections.toNat ≤ Server.maxPermits ∧
        (s.maxLineBytes.toNat + 1 < UInt64.size ∨ s.maxConnections = 0) := by
  constructor
  · intro husable
    have hmax : s.maxConnections.toNat ≤ Server.maxPermits := by
      by_contra hmax
      refine (husable [.start]).running ?_
      have hlt : Server.maxPermits < s.maxConnections.toNat := Nat.lt_of_not_le hmax
      simp [run, launch, next, Gate.next, Gate.make, hlt]
    refine ⟨hmax, ?_⟩
    by_contra hnot
    obtain ⟨hline, hpos⟩ := not_or.1 hnot
    obtain ⟨g, hg, hclosed⟩ := (husable _).closed _ (stop_of_largest hmax hpos hline st)
    cases hg
    cases hclosed
  · rintro ⟨hmax, hline⟩ events
    have hr := (intact_launch h s st).run events
    have hgone : (run h s (launch s st) events).gone = 0 := by
      rcases hline with hline | hzero
      · exact hr.gone_eq_zero hline
      · rw [gone, tasks_eq_nil hzero st events]
        rfl
    exact ⟨hr.loop_ne_panicked hmax, hr.returns, fun x hx => hr.closed_of_returned hmax hgone hx⟩

/-- The check lets settings through that allow more connections than that. -/
theorem bind_not_usable :
    let h : Handler Unit := .stateless fun c => .ok (Handler.describe c)
    let s : Settings := { maxConnections := 0x2000000000000000 }
    Server.bind s true = .ok s ∧
      (run h s (launch s ()) [.stop, .start, .join]).stopping =
        .returned (.error Server.loopPanicked) ∧
      ¬ ∀ events, Usable h s (run h s (launch s ()) events) := by
  intro h s
  have hbind : Server.bind s true = .ok s := by decide
  have hstop : (run h s (launch s ()) [.stop, .start, .join]).stopping =
      .returned (.error Server.loopPanicked) := by
    decide
  refine ⟨hbind, hstop, fun husable => ?_⟩
  obtain ⟨g, hg, -⟩ := (husable [.stop, .start, .join]).closed _ hstop
  cases hg

end Service

end LinkCourier
