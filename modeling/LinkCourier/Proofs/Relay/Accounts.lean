import LinkCourier.Proofs.Parties
import LinkCourier.Proofs.Relay.Entries
import LinkCourier.Relay.Server
import LinkCourier.Relay.Serving

/-!
The ledger of a server that serves many connections at once. It adds up the entries of all
connections, so that what holds of the entries of each one, however far it has come, holds of the
ledger.
-/

namespace LinkCourier

namespace Serving

open Ledger (Entry Orderly)
open Connection

variable {σ : Type}

/-- How often an entry has been made for some tasks. The first entry for each of them is that it
has been accepted. -/
def entered (ts : List Task) (e : Entry) : Nat :=
  (ts.map fun t => .accepted :: t.entries).flatten.count e

/-! ### One event -/

variable {h : Handler σ} {s : Settings} {r : Serving σ} {u v : List Task} {t : Task} {e : Entry}

lemma entered_append (u v : List Task) (e : Entry) :
    entered (u ++ v) e = entered u e + entered v e := by
  rw [entered, List.map_append, List.flatten_append, List.count_append]
  rfl

lemma entered_cons (t : Task) (ts : List Task) (e : Entry) :
    entered (t :: ts) e = (.accepted :: t.entries : List Entry).count e + entered ts e := by
  rw [entered, List.map_cons, List.flatten_cons, List.count_append]
  rfl

/-- What one task adds. -/
lemma entered_replace {t' : Task} {es : List Entry} (ht : t'.entries = t.entries ++ es)
    (u v : List Task) (e : Entry) :
    entered (u ++ t' :: v) e = entered (u ++ t :: v) e + es.count e := by
  have hperm := Parties.flatten_perm (u.map fun t => .accepted :: t.entries)
    (v.map fun t => .accepted :: t.entries) (.accepted :: t.entries) es
  have hcount := hperm.count_eq e
  rw [List.count_append] at hcount
  simpa only [entered, List.map_append, List.map_cons, List.cons_append, ht] using hcount

/-- The invariant: the ledger has the entries of all tasks, and these are on their way to an
outcome. -/
structure Kept (h : Handler σ) (s : Settings) (r : Serving σ) : Prop where
  ledger : ∀ e, r.ledger.counter e = entered r.tasks e
  sound : ∀ t ∈ r.tasks, Connection.Sound h s t.peer t.stage t.response t.entries

lemma kept_start (h : Handler σ) (s : Settings) (st : σ) : Kept h s { state := st } where
  ledger e := by cases e <;> rfl
  sound := by simp

lemma Kept.accept (hr : r.Kept h s) (p : Peer) : (r.next h s (.accept p)).Kept h s := by
  constructor
  · intro e
    simp only [next, Ledger.counter_record, hr.ledger, entered_append]
    cases e <;> rfl
  · intro t ht
    simp only [next, List.mem_append, List.mem_singleton] at ht
    rcases ht with ht | rfl
    · exact hr.sound t ht
    · exact .reading

lemma Kept.step (hr : r.Kept h s) (i : Nat) : (r.next h s (.step i)).Kept h s := by
  rcases hi : r.tasks[i]? with _ | t
  · have hsame : r.next h s (.step i) = r := by simp only [next, hi]
    rwa [hsame]
  obtain ⟨u, v, hts, hset⟩ := Parties.exists_around hi
  simp only [next, hi, hset]
  constructor
  · intro e
    have ht : (t.next h s r.state).1.entries = t.entries ++ (t.next h s r.state).2.1 := rfl
    rw [Ledger.counter_recordAll, hr.ledger, hts, entered_replace ht]
  · intro t' ht'
    simp only [List.mem_append, List.mem_cons] at ht'
    rcases ht' with ht' | rfl | ht'
    · exact hr.sound t' (by simp [hts, ht'])
    · have ht := hr.sound t (by simp [hts])
      exact ht.next r.state
    · exact hr.sound t' (by simp [hts, ht'])

/-- **One event** keeps the ledger. -/
theorem Kept.next (hr : r.Kept h s) (e : Event σ) : (r.next h s e).Kept h s := by
  cases e with
  | accept p => exact hr.accept p
  | step i => exact hr.step i
  | drift st => exact ⟨hr.ledger, hr.sound⟩

/-- **A run** keeps the ledger. -/
theorem Kept.run (hr : r.Kept h s) (events : List (Event σ)) : (r.run h s events).Kept h s := by
  induction events generalizing r with
  | nil => exact hr
  | cons e es ih => exact ih (hr.next e)

/-! ### One connection after the other -/

/-- Where a connection stands when nothing is left for it to do. -/
def ended : Result Failure Unit → Stage
  | .error f => .closed (.error f)
  | .ok () => .closed (.ok ())
  | .panicked => .panicked

lemma ended_ofExcept (x : Except Failure Unit) : ended (.ofExcept x) = .closed x := by
  rcases x with f | ⟨⟩ <;> rfl

/-- A connection that takes its steps in a row is served as a server with nothing else to do
serves it. -/
theorem run_serve (h : Handler σ) (s : Settings) (r : Serving σ) (p : Peer) :
    let served := Server.Running.serve h s ⟨r.state, r.ledger⟩ p
    r.run h s (.accept p :: List.replicate 6 (.step r.tasks.length)) =
      { state := served.2.state
        ledger := served.2.ledger
        tasks := r.tasks ++
          [⟨p, ended served.1.result, served.1.response, served.1.entries⟩] } := by
  obtain ⟨st, g, ts⟩ := r
  simp only [Server.Running.serve, run, List.replicate, List.foldl_cons, List.foldl_nil, next]
  rcases serve_cases h s p st with
    ⟨hr, ho⟩ | ⟨f, hr, ho⟩ | ⟨hr, ho⟩ | ⟨c, f, st', hr, ha, ho⟩ | ⟨c, w, st', hr, ha, ho⟩
  all_goals rw [ho]
  · simp [Task.next, Stage.next, Stage.written, Ledger.recordAll, hr, ended]
  · have hes : reported (.error f) = [.ioError] := reported_of_ne (kind_of_receive hr)
    simp [Task.next, Stage.next, Stage.written, Ledger.recordAll, hr, hes, ended]
  · have hes : reported (.ok ()) = [] := rfl
    simp [Task.next, Stage.next, Stage.written, Ledger.recordAll, hr, hes, ended]
  · have hes : reported (.error (handlerFailure f)) = [] := if_pos (kind_handlerFailure f)
    simp [Task.next, Stage.next, Stage.written, Ledger.recordAll, hr, ha, hes, ended]
  · simp [Task.next, Stage.next, Stage.written, Ledger.recordAll, hr, ha, ended_ofExcept]

/-! ### The balance -/

/-- What the ledger of a server says of its connections, and its counters of each other. -/
structure Balanced (h : Handler σ) (s : Settings) (r : Serving σ) : Prop where
  counters : ∀ e, r.ledger.counter e = entered r.tasks e
  handled : r.ledger.handlerFailures ≤ r.ledger.dispatched
  dispatched : r.ledger.dispatched ≤ r.ledger.accepted
  closed : r.ledger.closed ≤ r.ledger.accepted
  failed : r.ledger.ioErrors + r.ledger.handlerFailures ≤ r.ledger.accepted
  /-- If 64 bits are enough for the connections, they are enough for every counter. -/
  fits : r.ledger.accepted < UInt64.size → ∀ e, r.ledger.counter e < UInt64.size
  once : ∀ t ∈ r.tasks, t.entries.count .ioError + t.entries.count .handlerFailure ≤ 1
  silent : ∀ t ∈ r.tasks, .handlerFailure ∈ t.entries → t.response = none
  settled : ∀ t ∈ r.tasks, ∀ x, t.stage = .closed x → Settled h s t x
  /-- The connections that have panicked, as they do only with the largest limit. -/
  gone : ∀ t ∈ r.tasks, t.panicked →
    s.maxLineBytes.toNat + 1 = UInt64.size ∧ t.entries = [] ∧ t.response = none
  /-- The connections that have closed with an error of the handler, and with another one. -/
  handlerErrors : entered (r.tasks.filter Task.finished) .handlerFailure =
    (r.tasks.filter Task.finished).countP (Task.failed (· = .handler))
  ioErrors : entered (r.tasks.filter Task.finished) .ioError =
    (r.tasks.filter Task.finished).countP (Task.failed (· ≠ .handler))
  errors : (r.tasks.filter Task.finished).countP (Task.failed fun _ => true) =
    entered (r.tasks.filter Task.finished) .ioError +
      entered (r.tasks.filter Task.finished) .handlerFailure

lemma Kept.orderly (hr : r.Kept h s) :
    r.ledger.handlerFailures ≤ r.ledger.dispatched ∧ r.ledger.dispatched ≤ r.ledger.accepted ∧
      r.ledger.closed ≤ r.ledger.accepted ∧
      r.ledger.ioErrors + r.ledger.handlerFailures ≤ r.ledger.accepted := by
  have horderly : Orderly (r.tasks.map fun t => .accepted :: t.entries).flatten := by
    refine Ledger.orderly_flatten fun es hes => ?_
    obtain ⟨t, ht, rfl⟩ := List.mem_map.1 hes
    exact ((hr.sound t ht).orderly r.state).1
  have hcount (e : Entry) : (r.tasks.map fun t => .accepted :: t.entries).flatten.count e =
      r.ledger.counter e := (hr.ledger e).symm
  obtain ⟨hhandled, hdispatched, hclosed, hfailed⟩ := horderly
  simp only [hcount] at hhandled hdispatched hclosed hfailed
  exact ⟨hhandled, hdispatched, hclosed, hfailed⟩

/-- An error is of the handler or it is not. -/
lemma countP_failed (ts : List Task) : ts.countP (Task.failed fun _ => true) =
    ts.countP (Task.failed (· ≠ .handler)) + ts.countP (Task.failed (· = .handler)) := by
  induction ts with
  | nil => rfl
  | cons t ts ih =>
    have ht : (if t.failed fun _ => true then 1 else 0) =
        (if t.failed (· ≠ .handler) then 1 else 0) + if t.failed (· = .handler) then 1 else 0 := by
      unfold Task.failed
      split
      · rename_i x _
        rcases x with f | u
        · by_cases hf : f.kind = .handler <;> simp [fails, hf]
        · rfl
      · rfl
    simp only [List.countP_cons, ih]
    omega

lemma entered_eq_countP {ts : List Task} {q : Task → Bool} (he : e ≠ .accepted)
    (hq : ∀ t ∈ ts, t.entries.count e = (q t).toNat) : entered ts e = ts.countP q := by
  induction ts with
  | nil => rfl
  | cons t ts ih =>
    have hrest : entered ts e = ts.countP q := ih fun t' ht' => hq t' (List.mem_cons_of_mem t ht')
    have ht : t.entries.count e = (q t).toNat := hq t List.mem_cons_self
    rw [entered_cons, List.count_cons_of_ne he.symm, ht, hrest, List.countP_cons, Nat.add_comm]
    cases q t <;> rfl

lemma Kept.settled (hr : r.Kept h s) (ht : t ∈ r.tasks) {x : Except Failure Unit}
    (hx : t.stage = .closed x) : Settled h s t x := by
  have hsound := hr.sound t ht
  rw [hx] at hsound
  exact hsound.settled

/-- An entry that closed connections make for errors of some kinds only counts these errors. -/
lemma Kept.entered_failed (hr : r.Kept h s) {q : Failure.Kind → Bool} (he : e ≠ .accepted)
    (hq : ∀ t x, Settled h s t x → t.entries.count e = (fails q x).toNat) :
    entered (r.tasks.filter Task.finished) e =
      (r.tasks.filter Task.finished).countP (Task.failed q) := by
  refine entered_eq_countP he fun t ht => ?_
  obtain ⟨hmem, hfinished⟩ := List.mem_filter.1 ht
  obtain ⟨x, hx⟩ := Task.exists_closed hfinished
  rw [Task.failed_of_closed hx]
  exact hq t x (hr.settled hmem hx)

/-- **The ledger is consistent** at any time. A failure of the handler has been dispatched, what
has been dispatched or closed has been accepted, and no connection is entered as failed twice. A
connection that has closed has been entered as closed once, as dispatched if its stream carries a
command, and with its error, if any, by its kind; nothing is written for a command that its
handler fails. -/
theorem ledger_balanced (h : Handler σ) (s : Settings) (st : σ) (events : List (Event σ)) :
    (run h s { state := st } events).Balanced h s := by
  have hr : (run h s { state := st } events).Kept h s := (kept_start h s st).run events
  generalize run h s { state := st } events = r at hr
  obtain ⟨hhandled, hdispatched, hclosed, hfailed⟩ := hr.orderly
  have hhandler : entered (r.tasks.filter Task.finished) .handlerFailure =
      (r.tasks.filter Task.finished).countP (Task.failed (· = .handler)) :=
    hr.entered_failed (by decide) fun t x hx => hx.handlerFailure
  have hio : entered (r.tasks.filter Task.finished) .ioError =
      (r.tasks.filter Task.finished).countP (Task.failed (· ≠ .handler)) :=
    hr.entered_failed (by decide) fun t x hx => hx.ioError
  constructor
  · exact hr.ledger
  · exact hhandled
  · exact hdispatched
  · exact hclosed
  · exact hfailed
  · intro hfits e
    cases e <;> simp only [Ledger.counter] <;> omega
  · exact fun t ht => ((hr.sound t ht).orderly r.state).2
  · exact fun t ht => (hr.sound t ht).silent r.state
  · exact fun t ht x hx => hr.settled ht hx
  · exact fun t ht => (hr.sound t ht).gone
  · exact hhandler
  · exact hio
  · rw [countP_failed, hhandler, hio]

end Serving

end LinkCourier
