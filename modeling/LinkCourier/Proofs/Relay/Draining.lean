import Mathlib.Tactic.SplitIfs
import LinkCourier.Proofs.Relay.Accepting

/-!
What the limit of connections and the order of stopping are good for. A connection that panics gives
its permit back like any other, but it is never counted as closed.
-/

namespace LinkCourier

open Connection (Task)

namespace Connection

open Ledger (Entry)

variable {σ : Type} {h : Handler σ} {s : Settings} {p : Peer} {x : Stage} {w : Option Bytes}
  {es : List Entry}

/-- A connection is entered as closed by its last step. -/
lemma Sound.count_closed {t : Task} (ht : Sound h s t.peer t.stage t.response t.entries) :
    t.entries.count .closed = t.finished.toNat := by
  obtain ⟨p, x, w, es⟩ := t
  have hnone (y : Except Failure Unit) : (reported y).count .closed = 0 := by
    rcases y with f | u
    · rw [reported]
      split <;> rfl
    · rfl
  have hone {st : σ} {o : Outcome σ} {r : Except Failure Unit} (ho : serve h s p st = o)
      (hr : o.result = .ofExcept r) : o.entries.count .closed = 1 := by
    subst ho
    exact (truthful_serve hr).closed
  cases ht with
  | reading | dispatching | handling | failing | responding | panicked => rfl
  | served ho hr hes =>
    have hclosed := hone ho hr
    rw [hes, List.count_append, List.count_append, hnone] at hclosed
    simpa [Task.finished] using hclosed
  | closing ho hr hes =>
    have hclosed := hone ho hr
    rw [hes, List.count_append] at hclosed
    simpa [Task.finished] using hclosed
  | closed ho hr => exact hone ho hr

/-- What a connection enters by itself is not that it has been accepted. -/
lemma Sound.count_accepted (hx : Sound h s p x w es) (st : σ) : es.count .accepted = 0 := by
  have hall : ∀ l ∈ courses, Entry.accepted ∉ l := by decide
  obtain ⟨st', hes, -⟩ := hx.begins st
  exact List.count_eq_zero_of_not_mem fun hmem =>
    hall _ (serve_mem_courses h s p st') (hes.subset hmem)

namespace Task

/-- What is over is either closed or has panicked. -/
lemma isOver_eq (t : Task) : (if t.isOver then 1 else 0) =
    (if t.finished then 1 else 0) + if t.panicked then 1 else 0 := by
  obtain ⟨p, stage, w, es⟩ := t
  cases stage <;> rfl

/-- What is over stays as it is. -/
lemma next_of_isOver {t : Task} (ht : t.isOver) (h : Handler σ) (s : Settings) (st : σ) :
    t.next h s st = (t, [], st) := by
  obtain ⟨p, stage, w, es⟩ := t
  rw [isOver, Bool.or_eq_true] at ht
  rcases ht with ht | ht
  · obtain ⟨x, rfl⟩ := exists_closed ht
    simp [next, Stage.next, Stage.written]
  · obtain rfl : stage = .panicked := stage_of_panicked ht
    simp [next, Stage.next, Stage.written]

end Task

end Connection

/-- A connection that is counted and has no task of its own yet. -/
def Loop.pending : Loop Peer → List Task
  | .accepted p => [{ peer := p }]
  | _ => []

namespace Serving

variable {σ : Type} {h : Handler σ} {s : Settings} {r : Serving σ}

lemma entered_accepted {ts : List Task} (hts : ∀ t ∈ ts, t.entries.count .accepted = 0) :
    entered ts .accepted = ts.length := by
  induction ts with
  | nil => rfl
  | cons t ts ih =>
    have hrest := ih fun t' ht' => hts t' (List.mem_cons_of_mem t ht')
    rw [entered_cons, List.count_cons_self, hts t List.mem_cons_self, hrest, List.length_cons,
      Nat.zero_add, Nat.add_comm]

/-- As many connections have been accepted as there are. -/
lemma Kept.accepted_eq (hr : r.Kept h s) : r.ledger.accepted = r.tasks.length :=
  (hr.ledger .accepted).trans
    (entered_accepted fun t ht => (hr.sound t ht).count_accepted r.state)

/-- As many have been closed as have come to their end. -/
lemma Kept.closed_eq (hr : r.Kept h s) : r.ledger.closed = r.tasks.countP Task.finished :=
  (hr.ledger .closed).trans
    (entered_eq_countP (by simp) fun t ht => (hr.sound t ht).count_closed)

end Serving

namespace Service

variable {σ : Type} {h : Handler σ} {s : Settings} {r r' : Service σ} {e : Event σ}

/-! ### The connections -/

/-- The connections by themselves. One that has no task yet has not begun. -/
def serving (r : Service σ) : Serving σ :=
  ⟨r.state, r.ledger, r.tasks.map (·.task) ++ r.loop.pending⟩

/-- Of what happens to a server, its connections see that they are accepted, their own steps and
what becomes of the handler's state. -/
lemma Move.serving (hm : Move h s r e r') :
    r'.serving = r.serving ∨ ∃ e, r'.serving = r.serving.next h s e := by
  cases hm with
  | accept p hl => exact .inr ⟨.accept p, by simp [Service.serving, Serving.next, hl, Loop.pending]⟩
  | @step i u v t ht =>
    refine .inr ⟨.step u.length, ?_⟩
    simp [Service.serving, Serving.next, ht]
  | drift st => exact .inr ⟨.drift st, rfl⟩
  | spawn hl => exact .inl (by simp [Service.serving, hl, Loop.pending])
  | release ht | forget ht => exact .inl (by simp [Service.serving, ht])
  | panic hl | start hl | acquire hl | acceptFailed hl | resume hl | leaveAcquiring _ hl
    | leaveListening _ hl => exact .inl (by simp [Service.serving, hl, Loop.pending])
  | cancel | stop | join | fail | closeTracker | drain | readLedger => exact .inl rfl

lemma Move.kept (hr : r.serving.Kept h s) (hm : Move h s r e r') : r'.serving.Kept h s := by
  rcases hm.serving with hsame | ⟨e, he⟩
  · rwa [hsame]
  · rw [he]
    exact hr.next e

/-! ### The permits -/

/-- All permits: those that are free, that of the loop and those of the tasks. -/
def permits (r : Service σ) : ℕ :=
  r.free + r.loop.holds.toNat + r.tasks.countP (·.hold = .permit)

/-- **No permit is lost** and none is made. -/
theorem Move.permits (hm : Move h s r e r') : r'.permits = r.permits := by
  cases hm with
  | acquire hl hn => simp [Service.permits, Loop.holds, hl, hn]
  | panic hl | start hl | accept _ hl | acceptFailed hl | leaveAcquiring _ hl =>
    simp [Service.permits, Loop.holds, hl]
  | resume hl | leaveListening _ hl => simp [Service.permits, Loop.holds, hl]
  | spawn hl =>
    simp only [Service.permits, Loop.holds, hl, Bool.toNat_true, Bool.toNat_false,
      List.countP_append, List.countP_singleton, decide_true, if_true]
    omega
  | release ht =>
    simp only [Service.permits, ht, List.countP_append, List.countP_cons]
    simp
    omega
  | step ht | forget ht => simp [Service.permits, ht, List.countP_cons]
  | drift | cancel | stop | join | fail | closeTracker | drain | readLedger => rfl

/-- A task that has given its permit back does nothing any more. -/
def Returned (r : Service σ) : Prop := ∀ t ∈ r.tasks, t.hold ≠ .permit → t.task.isOver

lemma Move.returned (hr : r.Returned) (hm : Move h s r e r') : r'.Returned := by
  cases hm with
  | spawn hl =>
    intro t ht hhold
    rcases List.mem_append.1 ht with ht | ht
    · exact hr t ht hhold
    · rw [List.mem_singleton.1 ht] at hhold
      exact absurd rfl hhold
  | @step i u v t ht =>
    rw [Returned, ht, List.forall_mem_append, List.forall_mem_cons] at hr
    rw [Returned, List.forall_mem_append, List.forall_mem_cons]
    refine ⟨hr.1, fun hhold => ?_, hr.2.2⟩
    rw [Task.next_of_isOver (hr.2.1 hhold)]
    exact hr.2.1 hhold
  | release ht ho =>
    rw [Returned, ht, List.forall_mem_append, List.forall_mem_cons] at hr
    rw [Returned, List.forall_mem_append, List.forall_mem_cons]
    exact ⟨hr.1, fun _ => ho, hr.2.2⟩
  | forget ht =>
    rw [Returned, ht, List.forall_mem_append, List.forall_mem_cons] at hr
    rw [Returned, List.forall_mem_append, List.forall_mem_cons]
    exact ⟨hr.1, fun _ => hr.2.1 (by simp), hr.2.2⟩
  | panic | start | acquire | accept | acceptFailed | resume | leaveAcquiring | leaveListening
    | drift | cancel | stop | join | fail | closeTracker | drain | readLedger => exact hr

/-! ### The loop -/

/-- What is known by where the loop stands: whether a semaphore can have the permits, and that
there are no connections before there is a semaphore. -/
def Begun (s : Settings) (r : Service σ) : Prop :=
  match r.loop with
  | .starting => r.tasks = []
  | .panicked => r.tasks = [] ∧ Server.maxPermits < s.maxConnections.toNat
  | _ => s.maxConnections.toNat ≤ Server.maxPermits

lemma Move.begun (hr : r.Begun s) (hm : Move h s r e r') : r'.Begun s := by
  rw [Begun] at hr
  cases hm with
  | panic hl hmax =>
    rw [hl] at hr
    exact ⟨hr, hmax⟩
  | start hl hmax => exact hmax
  | acquire hl | accept _ hl | acceptFailed hl | resume hl | spawn hl | leaveAcquiring _ hl
    | leaveListening _ hl =>
    rw [hl] at hr
    exact hr
  | @step i u v t ht | @release i u v t ht | @forget i u v t ht =>
    have hne : r.tasks ≠ [] := by simp [ht]
    rw [Begun]
    split at hr
    · exact absurd hr hne
    · exact absurd hr.1 hne
    · exact hr
  | drift | cancel | stop | join | fail | closeTracker | drain | readLedger => exact hr

/-- A loop that has been left, or has panicked, takes no more steps. -/
lemma Move.loop_eq (hl : r.loop = .left ∨ r.loop = .panicked) (hm : Move h s r e r') :
    r'.loop = r.loop := by
  cases hm with
  | panic hl' | start hl' | acquire hl' | accept _ hl' | acceptFailed hl' | resume hl' | spawn hl'
    | leaveAcquiring _ hl' | leaveListening _ hl' => simp [hl'] at hl
  | step | release | forget | drift | cancel | stop | join | fail | closeTracker | drain
    | readLedger => rfl

/-! ### The end -/

/-- The loop has been left, and all tasks have come to their ends. -/
structure Over (r : Service σ) : Prop where
  left : r.loop = .left
  tasks : ∀ t ∈ r.tasks, t.hold = .nothing ∧ t.task.isOver

/-- **After the end** nothing is counted any more. -/
theorem Move.over (ho : r.Over) (hm : Move h s r e r') : r'.Over ∧ r'.ledger = r.ledger := by
  obtain ⟨hl, hf⟩ := ho
  cases hm with
  | panic hl' | start hl' | acquire hl' | accept _ hl' | acceptFailed hl' | resume hl' | spawn hl'
    | leaveAcquiring _ hl' | leaveListening _ hl' => simp [hl] at hl'
  | @step i u v t ht =>
    have hnext := Task.next_of_isOver (hf t (by simp [ht])).2 h s r.state
    rw [ht] at hf
    refine ⟨⟨hl, ?_⟩, ?_⟩
    · simpa only [hnext] using hf
    · simp [hnext, Ledger.recordAll]
  | @release i u v t ht _ =>
    have hhold : Hold.permit = .nothing := (hf ⟨t, .permit⟩ (by simp [ht])).1
    cases hhold
  | @forget i u v t ht =>
    have hhold : Hold.place = .nothing := (hf ⟨t, .place⟩ (by simp [ht])).1
    cases hhold
  | drift | cancel | stop | join | fail | closeTracker | drain | readLedger =>
    exact ⟨⟨hl, hf⟩, rfl⟩

lemma Over.ledger_run (ho : r.Over) (h : Handler σ) (s : Settings) (later : List (Event σ)) :
    (r.run h s later).ledger = r.ledger := by
  have hkept : ∀ (r₁ : Service σ) e r₂, r₁.Over ∧ r₁.ledger = r.ledger → Move h s r₁ e r₂ →
      r₂.Over ∧ r₂.ledger = r.ledger :=
    fun _ _ _ ⟨ho₁, hg₁⟩ hm => ⟨(hm.over ho₁).1, (hm.over ho₁).2.trans hg₁⟩
  exact (run_keeps hkept ⟨ho, rfl⟩ later).2

/-- What is known by how far stopping has come. -/
def Reached (r : Service σ) : Prop :=
  match r.stopping with
  | .idle => True
  | .joining => r.cancelled = true
  | .joined | .waiting => r.loop = .left
  | .drained => r.Over
  | .returned (.ok g) => r.Over ∧ r.ledger = g
  | .returned (.error f) => r.loop = .panicked ∧ f = Server.loopPanicked

lemma Move.reached (hr : r.Reached) (hret : r.Returned) (hm : Move h s r e r') : r'.Reached := by
  by_cases hsame : r'.stopping = r.stopping ∧ (r.cancelled → r'.cancelled)
  · rw [Reached] at hr ⊢
    rw [hsame.1]
    split at hr
    · trivial
    · exact hsame.2 hr
    · exact (hm.loop_eq (.inl hr)).trans hr
    · exact (hm.loop_eq (.inl hr)).trans hr
    · exact (hm.over hr).1
    · exact ⟨(hm.over hr.1).1, (hm.over hr.1).2.trans hr.2⟩
    · exact ⟨(hm.loop_eq (.inr hr.1)).trans hr.1, hr.2⟩
  · rw [Reached] at hr
    cases hm with
    | panic | start | acquire | accept | acceptFailed | resume | spawn | leaveAcquiring
      | leaveListening | step | release | forget | drift => exact absurd ⟨rfl, id⟩ hsame
    | cancel => exact absurd ⟨rfl, fun _ => rfl⟩ hsame
    | stop hs => exact rfl
    | join hs hl => exact hl
    | fail hs hl => exact ⟨hl, rfl⟩
    | closeTracker hs =>
      rw [hs] at hr
      exact hr
    | drain hs hall =>
      rw [hs] at hr
      exact ⟨hr, fun t ht => ⟨hall t ht, hret t ht (by simp [hall t ht])⟩⟩
    | readLedger hs =>
      rw [hs] at hr
      exact ⟨⟨hr.left, hr.tasks⟩, rfl⟩

/-! ### The invariant -/

structure Intact (h : Handler σ) (s : Settings) (r : Service σ) : Prop where
  kept : r.serving.Kept h s
  permits : r.permits = s.maxConnections.toNat
  returned : r.Returned
  begun : r.Begun s
  reached : r.Reached

lemma intact_launch (h : Handler σ) (s : Settings) (st : σ) : (launch s st).Intact h s where
  kept := Serving.kept_start h s st
  permits := rfl
  returned := by simp [Returned, launch]
  begun := rfl
  reached := trivial

/-- **One step** keeps the invariant. -/
theorem Intact.move (hr : r.Intact h s) (hm : Move h s r e r') : r'.Intact h s where
  kept := hm.kept hr.kept
  permits := hm.permits.trans hr.permits
  returned := hm.returned hr.returned
  begun := hm.begun hr.begun
  reached := hm.reached hr.reached hr.returned

/-- **A run** keeps the invariant. -/
theorem Intact.run (hr : r.Intact h s) (events : List (Event σ)) : (r.run h s events).Intact h s :=
  run_keeps (fun _ _ _ hr hm => hr.move hm) hr events

/-- How many connections have panicked. -/
def gone (r : Service σ) : ℕ := r.tasks.countP (·.task.panicked)

lemma countP_isOver (ts : List Tracked) : ts.countP (·.task.isOver) =
    ts.countP (·.task.finished) + ts.countP (·.task.panicked) := by
  induction ts with
  | nil => rfl
  | cons t ts ih =>
    simp only [List.countP_cons, ih, t.task.isOver_eq]
    omega

lemma Intact.accepted_eq (hr : r.Intact h s) :
    r.ledger.accepted = r.tasks.length + r.loop.pending.length := by
  have hlength := hr.kept.accepted_eq
  simpa [serving] using hlength

lemma Intact.closed_eq (hr : r.Intact h s) :
    r.ledger.closed = r.tasks.countP (·.task.finished) := by
  have hpending : r.loop.pending.countP Task.finished = 0 := by
    cases r.loop <;> rfl
  have hcount := hr.kept.closed_eq
  simp only [serving, List.countP_append, List.countP_map, hpending] at hcount
  exact hcount

/-- A connection that is not over has a permit. -/
lemma Intact.accepted_le (hr : r.Intact h s) :
    r.ledger.accepted ≤ r.ledger.closed + r.gone + s.maxConnections.toNat := by
  have hpending : r.loop.pending.length ≤ r.loop.holds.toNat := by
    cases r.loop <;> simp [Loop.pending, Loop.holds]
  have hopen : r.tasks.countP (fun t => !t.task.isOver) ≤ r.tasks.countP (·.hold = .permit) := by
    refine List.countP_mono_left fun t ht hnot => ?_
    by_contra hhold
    have hover := hr.returned t ht (by simpa using hhold)
    simp [hover] at hnot
  have hsplit := List.length_eq_countP_add_countP (fun t : Tracked => t.task.isOver) (l := r.tasks)
  have hover := countP_isOver r.tasks
  have hpermits := hr.permits
  rw [hr.accepted_eq, hr.closed_eq, gone]
  simp only [Service.permits] at hpermits
  simp only [Bool.not_eq_true, Bool.decide_eq_false] at hsplit
  omega

lemma Intact.closed_le (hr : r.Intact h s) : r.ledger.closed + r.gone ≤ r.ledger.accepted := by
  have hle : r.tasks.countP (·.task.isOver) ≤ r.tasks.length := List.countP_le_length
  rw [hr.accepted_eq, hr.closed_eq, gone, ← countP_isOver]
  omega

/-- At the end all connections are closed, but for those that have panicked. -/
lemma Intact.closed_eq_of_over (hr : r.Intact h s) (ho : r.Over) :
    r.ledger.closed + r.gone = r.ledger.accepted := by
  have hall : ∀ t ∈ r.tasks, t.task.isOver := fun t ht => (ho.tasks t ht).2
  calc r.ledger.closed + r.gone = r.tasks.countP (·.task.isOver) := by
        rw [hr.closed_eq, gone, countP_isOver]
    _ = r.tasks.length := List.countP_eq_length.2 hall
    _ = r.ledger.accepted := by
        rw [hr.accepted_eq, ho.left]
        rfl

/-- No connection panics, unless the limit is the largest one. -/
lemma Intact.gone_eq_zero (hr : r.Intact h s) (hlim : s.maxLineBytes.toNat + 1 < UInt64.size) :
    r.gone = 0 := by
  refine List.countP_eq_zero.2 fun t ht hpanic => ?_
  have hmem : t.task ∈ r.serving.tasks :=
    List.mem_append_left _ (List.mem_map_of_mem ht)
  have hmax := ((hr.kept.sound t.task hmem).gone hpanic).1
  omega

/-- The connections inside the gate are the tasks that have a permit. -/
theorem Intact.inside_eq (hr : r.Intact h s) :
    r.inside s = r.tasks.countP (·.hold = .permit) := by
  have hpermits := hr.permits
  simp only [Service.permits] at hpermits
  rw [Gate.inside]
  omega

lemma Intact.over_of_returned (hr : r.Intact h s) {g : Ledger}
    (hg : r.stopping = .returned (.ok g)) : r.Over ∧ r.ledger = g := by
  have hreached := hr.reached
  rw [Reached, hg] at hreached
  exact hreached

/-- **The limit and the end**: at no time are there more open connections than there may be, and
none is closed that has not been accepted. Once stopping has returned the counters, every
connection that has been accepted is closed, and no counter changes any more. A connection that has
panicked is neither open nor closed; there are such ones only with the largest limit for a line. -/
theorem stop_drained (h : Handler σ) (s : Settings) (st : σ) (events : List (Event σ)) :
    let r := run h s (launch s st) events
    (s.maxLineBytes.toNat + 1 < UInt64.size → r.gone = 0) ∧
    r.ledger.closed + r.gone ≤ r.ledger.accepted ∧
    r.ledger.accepted ≤ r.ledger.closed + r.gone + s.maxConnections.toNat ∧
    ∀ g, r.stopping = .returned (.ok g) →
      g = r.ledger ∧ g.closed + r.gone = g.accepted ∧ ∀ later, (r.run h s later).ledger = g := by
  intro r
  have hr : r.Intact h s := (intact_launch h s st).run events
  refine ⟨hr.gone_eq_zero, hr.closed_le, hr.accepted_le, fun g hg => ?_⟩
  obtain ⟨hover, rfl⟩ := hr.over_of_returned hg
  exact ⟨rfl, hr.closed_eq_of_over hover, fun later => hover.ledger_run h s later⟩

/-- A connection that is accepted after the server has been told to stop is waited for, too. -/
theorem stop_drained_late :
    let h : Handler Unit := .stateless fun c => .ok (Handler.describe c)
    let s : Settings := { maxConnections := 2 }
    let early : Peer := { arrivals := [.bytes (Text.encode "vd\n".toList), .bytes [Framing.lf]] }
    let late : Peer :=
      { arrivals := [.bytes (Text.encode "vd\n".toList), .fault (.plain .connectionReset)] }
    let begin : List (Event Unit) := [.start, .acquire, .accept early, .spawn, .acquire, .step 0]
    let race : List (Event Unit) :=
      [.stop, .accept late, .spawn, .step 1, .leave, .join, .closeTracker]
    let serve : List (Event Unit) := List.replicate 5 (.step 0) ++ List.replicate 5 (.step 1)
    let finish : List (Event Unit) :=
      [.release 1, .release 0, .forget 0, .forget 1, .drain, .readLedger]
    let g : Ledger := { accepted := 2, closed := 2, dispatched := 1 }
    (run h s (launch s ()) (begin ++ race ++ serve ++ finish)).stopping = .returned (.ok g) ∧
      g.closed = g.accepted ∧
      ∀ later, ((run h s (launch s ()) (begin ++ race ++ serve ++ finish)).run h s later).ledger =
        g := by
  intro h s early late begin race serve finish g
  have hg : (run h s (launch s ()) (begin ++ race ++ serve ++ finish)).stopping =
      .returned (.ok g) := by
    decide +kernel
  obtain ⟨hgone, -, -, hstop⟩ := stop_drained h s () (begin ++ race ++ serve ++ finish)
  obtain ⟨-, hclosed, hlater⟩ := hstop g hg
  rw [hgone (by decide)] at hclosed
  exact ⟨hg, hclosed, hlater⟩

end Service

end LinkCourier
