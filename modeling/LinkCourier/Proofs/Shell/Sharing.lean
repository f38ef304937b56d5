import Mathlib.Data.List.Flatten
import Mathlib.Data.List.Induction
import LinkCourier.Proofs.Shell.Telling
import LinkCourier.Proofs.Shell.Wording
import LinkCourier.Shell.Sharing

/-!
Sessions that share a store. The news of all sessions account for the queue after every step: of a
call that has been made, the session whose call it is has told or is about to tell.
-/

namespace LinkCourier.Shell

open Script
open Reply (queuedOf cancelledOf)

variable {α : Type}

instance (x : Script Reply) : Decidable (x = .done) :=
  match x with
  | .done => isTrue rfl
  | .reply _ _ | .call _ _ => isFalse nofun

namespace Shared

def pushes (s : Shared) : Nat := s.calls.countP Call.isPush

/-- No line is in progress. -/
def Idle (s : Shared) : Prop := ∀ x ∈ s.sessions, x.script = .done

instance (s : Shared) : Decidable s.Idle :=
  inferInstanceAs (Decidable (∀ x ∈ s.sessions, x.script = .done))

end Shared

/-! ### One step -/

namespace Session

variable {x : Session}

/-- The news that the session has told, and those it is about to tell. -/
def news (x : Session) : List Reply := x.said.filter (·.isNews) ++ x.script.news

/-- The calls of a session are followed by their news. -/
def Faithful (x : Session) : Prop := x.script.Faithful fun _ => True

lemma news_of_done (h : x.script = .done) : x.news = x.said.filter (·.isNews) := by
  rw [news, h, news_done, List.append_nil]

/-- A step makes no call and leaves the news as they are, or it makes a call and its news are
added. -/
lemma next_cases (k : Link.Reader α) (s : Store) (h : x.Faithful) :
    (x.next k s).1.Faithful ∧
      (((x.next k s).2 = (none, s) ∧ (x.next k s).1.news = x.news) ∨
        ∃ c, (x.next k s).2 = (some c, (c.run s).2) ∧
          (x.next k s).1.news = x.news ++ c.news (c.run s).1) := by
  obtain ⟨y, lines, said⟩ := x
  cases y with
  | done =>
    cases lines with
    | nil => exact ⟨h, .inl ⟨rfl, rfl⟩⟩
    | cons l ls =>
      have hscript := candid_script k l
      refine ⟨hscript.faithful.mono fun _ _ => trivial, .inl ⟨rfl, ?_⟩⟩
      simp only [next, news, hscript.quiet, news_done]
  | reply r next =>
    refine ⟨h, .inl ⟨rfl, ?_⟩⟩
    simp only [Session.next, news, news_reply, List.filter_append, List.filter_cons,
      List.filter_nil, List.append_assoc]
  | call c next =>
    refine ⟨(h.2 _).2, .inr ⟨c, rfl, ?_⟩⟩
    simp only [Session.next, news, (h.2 _).1, news_call, List.append_nil]

/-- All replies are worded, those that have been made and those that are still to be made. -/
structure Worded (x : Session) : Prop where
  said : ∀ r ∈ x.said, r.Worded
  script : x.script.Worded

lemma Worded.next (h : x.Worded) (k : Link.Reader α) (s : Store) : (x.next k s).1.Worded := by
  obtain ⟨y, lines, said⟩ := x
  obtain ⟨hsaid, hscript⟩ := h
  cases y with
  | done =>
    cases lines with
    | nil => exact ⟨hsaid, hscript⟩
    | cons l ls => exact ⟨hsaid, worded_script k l⟩
  | reply r next =>
    exact ⟨List.forall_mem_append.2 ⟨hsaid, List.forall_mem_singleton.2 hscript.1⟩, hscript.2⟩
  | call c next => exact ⟨hsaid, hscript.2 _ trivial⟩

end Session

namespace Shared

variable {s : Shared} {k : Link.Reader α}

/-- The invariant: the news account for the queue, and the queue has been given as many numbers
as there have been pushes. -/
structure Accounted (s : Shared) : Prop where
  told : s.store.queue.Told (s.sessions.map Session.news)
  faithful : ∀ x ∈ s.sessions, x.Faithful
  last : s.store.queue.lastId = s.pushes

lemma accounted_start (lines : List (List Line)) : Accounted (start lines) := by
  refine ⟨Queue.told_empty _ fun n hn => ?_, fun x hx => ?_, rfl⟩
  · simp only [start, List.map_map, List.mem_map, Function.comp_apply] at hn
    obtain ⟨ls, -, rfl⟩ := hn
    rfl
  · obtain ⟨ls, -, rfl⟩ := List.mem_map.1 hx
    trivial

lemma step_of_none {i : Nat} (h : s.sessions[i]? = none) : s.step k i = s := by
  rw [step, h]

/-- A step changes one session. -/
lemma step_of_some {i : Nat} {x : Session} (h : s.sessions[i]? = some x) :
    ∃ u v, s.sessions = u ++ x :: v ∧
      s.step k i = ⟨(x.next k s.store).2.2, u ++ (x.next k s.store).1 :: v,
        s.calls ++ (x.next k s.store).2.1.toList⟩ := by
  obtain ⟨u, v, hs, hset⟩ := Parties.exists_around h
  refine ⟨u, v, hs, ?_⟩
  simp only [step, h, hset]

/-- What all sessions have in common they have after a step if the session keeps it. -/
lemma forall_step {P : Session → Prop} (h : ∀ x ∈ s.sessions, P x)
    (hnext : ∀ x ∈ s.sessions, P (x.next k s.store).1) (i : Nat) :
    ∀ y ∈ (s.step k i).sessions, P y := by
  rcases hx : s.sessions[i]? with _ | x
  · rwa [step_of_none hx]
  obtain ⟨u, v, hs, hstep⟩ := step_of_some (k := k) hx
  have hstepped : P (x.next k s.store).1 := hnext x (by simp [hs])
  rw [hs, List.forall_mem_append, List.forall_mem_cons] at h
  rw [hstep, List.forall_mem_append, List.forall_mem_cons]
  exact ⟨h.1, hstepped, h.2.2⟩

lemma pushes_le_step (k : Link.Reader α) (s : Shared) (i : Nat) :
    s.pushes ≤ (s.step k i).pushes := by
  rcases h : s.sessions[i]? with _ | x
  · simp only [step_of_none h, Nat.le_refl]
  · obtain ⟨u, v, -, hstep⟩ := step_of_some (k := k) h
    simp only [hstep, pushes, List.countP_append]
    omega

/-- **One step** of any session keeps the accounts. -/
lemma Accounted.step (h : s.Accounted) {i : Nat} (hroom : (s.step k i).pushes < UInt64.size) :
    (s.step k i).Accounted := by
  rcases hx : s.sessions[i]? with _ | x
  · rw [step_of_none hx]
    exact h
  obtain ⟨u, v, hs, hstep⟩ := step_of_some (k := k) hx
  have htold : s.store.queue.Told (u.map Session.news ++ x.news :: v.map Session.news) := by
    have htold := h.told
    rwa [hs, List.map_append, List.map_cons] at htold
  obtain ⟨-, hcases⟩ := Session.next_cases k s.store (h.faithful x (by simp [hs]))
  have hall : ∀ y ∈ (s.step k i).sessions, y.Faithful :=
    forall_step h.faithful (fun x hx => (Session.next_cases k s.store (h.faithful x hx)).1) i
  rw [hstep] at hroom hall ⊢
  rcases hcases with ⟨hnext, hnews⟩ | ⟨c, hnext, hnews⟩
  · rw [hnext] at hall ⊢
    refine ⟨?_, hall, ?_⟩
    · simpa only [List.map_append, List.map_cons, hnews] using htold
    · simpa [pushes] using h.last
  · rw [hnext] at hall hroom ⊢
    have hlast : s.store.queue.lastId = s.calls.countP Call.isPush := h.last
    simp only [pushes, List.countP_append, Option.toList_some, List.countP_singleton] at hroom
    refine ⟨?_, hall, ?_⟩
    · simp only [List.map_append, List.map_cons, hnews]
      refine htold.call c fun hc => ?_
      rw [if_pos hc] at hroom
      omega
    · simp only [pushes, List.countP_append, Option.toList_some, List.countP_singleton,
        Call.lastId_run]
      split
      · rename_i hc
        rw [if_pos hc] at hroom
        rw [Queue.nextId_of_lt (by omega), hlast]
      · exact hlast

/-! ### A whole schedule -/

lemma run_cons (k : Link.Reader α) (s : Shared) (i : Nat) (is : List Nat) :
    s.run k (i :: is) = (s.step k i).run k is :=
  rfl

lemma run_append (k : Link.Reader α) (s : Shared) (u v : List Nat) :
    s.run k (u ++ v) = (s.run k u).run k v :=
  List.foldl_append

/-- **A run** keeps the accounts, as long as there are numbers left. -/
lemma Accounted.run (h : s.Accounted) (schedule : List Nat)
    (hroom : (s.run k schedule).pushes < UInt64.size) : (s.run k schedule).Accounted := by
  induction schedule using List.reverseRecOn with
  | nil => exact h
  | append_singleton is i ih =>
    rw [run_append] at hroom ⊢
    have hle : (s.run k is).pushes ≤ ((s.run k is).step k i).pushes := pushes_le_step k _ i
    have hbefore : (s.run k is).Accounted := ih (Nat.lt_of_le_of_lt hle hroom)
    exact hbefore.step hroom

/-- All replies of all sessions are worded. -/
lemma worded_run (k : Link.Reader α) (lines : List (List Line)) (schedule : List Nat) :
    ∀ x ∈ ((start lines).run k schedule).sessions, x.Worded := by
  refine List.foldlRecOn (motive := fun s : Shared => ∀ x ∈ s.sessions, x.Worded) schedule _ ?_ ?_
  · exact List.forall_mem_map.2 fun _ _ => ⟨List.forall_mem_nil _, trivial⟩
  · exact fun s hs i _ => forall_step hs (fun x hx => (hs x hx).next k s.store) i

/-- Steps of one session in a row execute its script. -/
lemma run_script (k : Link.Reader α) (s : Store) (u v : List Session) (x : Script Reply)
    (lines : List Line) (said : List Reply) (calls : List Call) :
    ∃ n made, run k ⟨s, u ++ ⟨x, lines, said⟩ :: v, calls⟩ (List.replicate n u.length) =
      ⟨(x.run s).2, u ++ ⟨.done, lines, said ++ (x.run s).1⟩ :: v, made⟩ := by
  induction x generalizing s said calls with
  | done => exact ⟨0, calls, by simp [run, Script.run]⟩
  | reply r next ih =>
    obtain ⟨n, made, hn⟩ := ih s (said ++ [r]) calls
    refine ⟨n + 1, made, ?_⟩
    rw [List.replicate_succ, run_cons]
    simpa [step, Session.next, Script.run] using hn
  | call c next ih =>
    obtain ⟨n, made, hn⟩ := ih (c.run s).1 (c.run s).2 said (calls ++ [c])
    refine ⟨n + 1, made, ?_⟩
    rw [List.replicate_succ, run_cons]
    simpa [step, Session.next, Script.run] using hn

/-- **Steps of one session in a row** execute its lines, one after the other. -/
theorem run_lines (k : Link.Reader α) (s : Store) (u v : List Session) (lines : List Line)
    (said : List Reply) (calls : List Call) :
    ∃ n made, run k ⟨s, u ++ ⟨.done, lines, said⟩ :: v, calls⟩ (List.replicate n u.length) =
      ⟨(executeAll k s lines).2, u ++ ⟨.done, [], said ++ (executeAll k s lines).1⟩ :: v,
        made⟩ := by
  induction lines generalizing s said calls with
  | nil => exact ⟨0, calls, by simp [run, executeAll]⟩
  | cons l ls ih =>
    obtain ⟨m, made, hm⟩ := run_script k s u v (script k l) ls said calls
    obtain ⟨n, made', hn⟩ := ih (execute k s l).2 (said ++ (execute k s l).1) made
    refine ⟨1 + (m + n), made', ?_⟩
    rw [List.replicate_add, List.replicate_add, run_append, run_append]
    have hstart : run k ⟨s, u ++ ⟨.done, l :: ls, said⟩ :: v, calls⟩ (List.replicate 1 u.length) =
        ⟨s, u ++ ⟨script k l, ls, said⟩ :: v, calls⟩ := by
      simp [run, step, Session.next]
    rw [hstart, hm, ← execute, hn, List.append_assoc, executeAll]

/-! ### What has been told -/

/-- What has been told, and what is about to be. -/
lemma news_sublist (s : Shared) :
    (s.replies.filter (·.isNews)).Sublist (s.sessions.map Session.news).flatten := by
  rw [replies, List.filter_flatMap, ← List.flatMap_def]
  exact List.Sublist.flatMap_right _ fun x _ => List.sublist_append_left _ _

lemma queued_sublist (s : Shared) :
    (queuedOf s.replies).Sublist (queuedOf (s.sessions.map Session.news).flatten) := by
  rw [← Reply.queuedOf_news]
  exact s.news_sublist.filterMap _

lemma cancelled_sublist (s : Shared) :
    (cancelledOf s.replies).Sublist (cancelledOf (s.sessions.map Session.news).flatten) := by
  rw [← Reply.cancelledOf_news]
  exact s.news_sublist.filterMap _

/-- Between the lines nothing is left to be told. -/
lemma news_of_idle (h : s.Idle) :
    (s.sessions.map Session.news).flatten = s.replies.filter (·.isNews) := by
  rw [replies, List.filter_flatMap, ← List.flatMap_def]
  exact List.flatMap_congr fun x hx => Session.news_of_done (h x hx)

/-- Between the lines the replies themselves account for the queue. -/
lemma Accounted.entries_perm (h : s.Accounted) (hidle : s.Idle) :
    (s.store.queue.entries.map fun d => (d.id, d.link)).Perm
      ((queuedOf s.replies).filter fun p => p.1 ∉ cancelledOf s.replies) := by
  have hentries := h.told.entries
  have hids := h.told.ids
  rw [news_of_idle hidle, Reply.queuedOf_news] at hids
  rw [news_of_idle hidle, Reply.queuedOf_news, Reply.cancelledOf_news] at hentries
  have hqueue : (s.store.queue.entries.map fun d => (d.id, d.link)).Nodup := by
    refine .of_map Prod.fst ?_
    rw [List.map_map]
    exact h.told.ordered.sorted.imp Nat.ne_of_lt
  have htold : (queuedOf s.replies).Nodup := .of_map Prod.fst (hids.nodup_iff.2 List.nodup_range')
  rw [List.perm_ext_iff_of_nodup hqueue (htold.filter _)]
  rintro ⟨id, link⟩
  rw [List.mem_filter, decide_eq_true_eq, ← hentries]
  simp

end Shared

open Shared

/-- **Sessions neither share nor lose a download**, however their calls are interleaved. No number
is queued or cancelled twice, and the numbers of one session increase. When no line is in
progress, the numbers that have been told are those from 1 on, and the queue has, in the order of
their numbers, the downloads that nobody has been told are cancelled, with the links that have
been told. All of this can be read off the texts of the replies, which tell these numbers and
links. -/
theorem sessions_share_queue (k : Link.Reader α) (lines : List (List Line)) (schedule : List Nat)
    (h : ((start lines).run k schedule).pushes < UInt64.size) :
    let s := (start lines).run k schedule
    let queued := queuedOf s.replies
    let cancelled := cancelledOf s.replies
    (queued.map Prod.fst).Nodup ∧
      (∀ x ∈ s.sessions, ((queuedOf x.said).map Prod.fst).Pairwise (· < ·)) ∧
      cancelled.Nodup ∧
      (s.Idle →
        (queued.map Prod.fst).Perm (List.range' 1 queued.length) ∧
          (s.store.queue.entries.map (·.id)).Pairwise (· < ·) ∧
          (s.store.queue.entries.map fun d => (d.id, d.link)).Perm
            (queued.filter fun p => p.1 ∉ cancelled)) ∧
      ∀ r ∈ s.replies,
        (∀ id link,
          r.text = "Download #".toList ++ Decimal.digits id ++ " queued: ".toList ++ link ↔
            r = .queued id link) ∧
        ∀ id, r.text = "Download #".toList ++ Decimal.digits id ++ " cancelled.".toList ↔
          r = .cancelled id := by
  intro s queued cancelled
  have hs : s.Accounted := (accounted_start lines).run schedule h
  have hids : (queued.map Prod.fst).Nodup :=
    (hs.told.ids.nodup_iff.2 List.nodup_range').sublist (s.queued_sublist.map _)
  have hcancelled : cancelled.Nodup := hs.told.cancelled.sublist s.cancelled_sublist
  refine ⟨hids, fun x hx => ?_, hcancelled, fun hidle => ⟨?_, ?_, hs.entries_perm hidle⟩,
    fun r hr => ?_⟩
  · have hown := hs.told.own x.news (List.mem_map_of_mem hx)
    rw [Session.news, Reply.queuedOf_append, Reply.queuedOf_news, List.map_append] at hown
    exact (List.pairwise_append.1 hown).1
  · have hall := hs.told.ids
    rw [news_of_idle hidle, Reply.queuedOf_news] at hall
    have hlength : queued.length = s.store.queue.lastId := by
      simpa using hall.length_eq
    rw [hlength]
    exact hall
  · exact hs.told.ordered.sorted
  · obtain ⟨x, hx, hr⟩ := List.mem_flatMap.1 hr
    have hworded : r.Worded := (worded_run k lines schedule x hx).said r hr
    refine ⟨fun id link => ?_, fun id => ?_⟩
    · rw [← Reply.text_queued]
      exact Reply.text_eq_iff hworded (Option.some_ne_none _)
    · rw [← Reply.text_cancelled]
      exact Reply.text_eq_iff hworded (Option.some_ne_none _)

/-- The second session asks whether the module is loaded before the first one does, and both push
after that; then the second one cancels its own download twice. -/
theorem sessions_share_queue_interleaved :
    let lines : List (List Line) := [
      [⟨"modprobe http".toList, Line.unbroken_of_any rfl⟩,
        ⟨"do http://a/x".toList, Line.unbroken_of_any rfl⟩],
      [⟨"do http://b/y".toList, Line.unbroken_of_any rfl⟩,
        ⟨"cancel #1 1".toList, Line.unbroken_of_any rfl⟩]]
    let schedule := [0, 0, 0, 1, 1, 0, 0, 1, 0, 1, 1, 1, 1, 0, 1, 1]
    let s := (start lines).run Link.reader schedule
    s.pushes = 2 ∧ s.Idle ∧ cancelledOf s.replies = [1] ∧
      s.store.queue.entries.map (fun d => (d.id, d.link)) = [(2, "http://a/x".toList)] := by
  intro lines schedule
  have hpushes : ((start lines).run Link.reader schedule).pushes = 2 := by decide +kernel
  have hqueued : queuedOf ((start lines).run Link.reader schedule).replies =
      [(2, "http://a/x".toList), (1, "http://b/y".toList)] := by decide +kernel
  have hcancelled : cancelledOf ((start lines).run Link.reader schedule).replies = [1] := by
    decide +kernel
  have hidle : ((start lines).run Link.reader schedule).Idle := by decide +kernel
  have hroom : ((start lines).run Link.reader schedule).pushes < UInt64.size := by
    rw [hpushes]
    decide
  have hentries := ((sessions_share_queue Link.reader lines schedule hroom).2.2.2.1 hidle).2.2
  rw [hqueued, hcancelled] at hentries
  exact ⟨hpushes, hidle, hcancelled, List.perm_singleton.1 hentries⟩

end LinkCourier.Shell
