import Mathlib.Data.List.Nodup
import LinkCourier.Proofs.Parties
import LinkCourier.Proofs.Shell.Queue
import LinkCourier.Proofs.Shell.Scripts

/-!
What several parties have been told of a queue, and that it accounts for the queue.

Every party has a list of replies. Together they say which downloads have been queued and which
have been cancelled, and the entries of the queue are those of the former that are not among the
latter. One call, with its news told to one party, keeps it so.
-/

namespace LinkCourier

namespace Reply

/-- The downloads that are said to be queued, by number and link. -/
def queuedOf (rs : List Reply) : List (Nat × Text) :=
  rs.filterMap fun
    | .queued id link => some (id, link)
    | _ => none

/-- The numbers that are said to be cancelled. -/
def cancelledOf (rs : List Reply) : List Nat :=
  rs.filterMap fun
    | .cancelled id => some id
    | _ => none

@[simp] lemma queuedOf_append (u v : List Reply) : queuedOf (u ++ v) = queuedOf u ++ queuedOf v :=
  List.filterMap_append

@[simp] lemma cancelledOf_append (u v : List Reply) :
    cancelledOf (u ++ v) = cancelledOf u ++ cancelledOf v :=
  List.filterMap_append

lemma queuedOf_news (rs : List Reply) : queuedOf (rs.filter (·.isNews)) = queuedOf rs := by
  rw [queuedOf, List.filterMap_filter, queuedOf]
  refine List.filterMap_congr fun r _ => ?_
  cases r <;> rfl

lemma cancelledOf_news (rs : List Reply) :
    cancelledOf (rs.filter (·.isNews)) = cancelledOf rs := by
  rw [cancelledOf, List.filterMap_filter, cancelledOf]
  refine List.filterMap_congr fun r _ => ?_
  cases r <;> rfl

end Reply

namespace Call

def isPush : Call → Bool
  | .push _ _ => true
  | _ => false

lemma lastId_run (c : Call) (s : Store) :
    (c.run s).2.queue.lastId = if c.isPush then s.queue.nextId else s.queue.lastId := by
  cases c <;> rfl

end Call

namespace Queue

open Reply (queuedOf cancelledOf)

variable {q : Queue} {ns u v : List (List Reply)} {n e : List Reply}

/-- The replies to several parties account for a queue. -/
structure Told (q : Queue) (ns : List (List Reply)) : Prop where
  ordered : q.Ordered
  /-- Every number that has been given has been told once. -/
  ids : ((queuedOf ns.flatten).map Prod.fst).Perm (List.range' 1 q.lastId)
  own : ∀ n ∈ ns, ((queuedOf n).map Prod.fst).Pairwise (· < ·)
  cancelled : (cancelledOf ns.flatten).Nodup
  given : ∀ id ∈ cancelledOf ns.flatten, id ≤ q.lastId
  entries : ∀ id link, (∃ d ∈ q.entries, d.id = id ∧ d.link = link) ↔
    (id, link) ∈ queuedOf ns.flatten ∧ id ∉ cancelledOf ns.flatten

lemma told_empty (ns : List (List Reply)) (h : ∀ n ∈ ns, n = []) : Told {} ns := by
  have hnil : ns.flatten = [] := List.flatten_eq_nil_iff.2 h
  refine ⟨ordered_empty, ?_, fun n hn => ?_, ?_, ?_, ?_⟩
  · rw [hnil]
    exact .nil
  · rw [h n hn]
    exact .nil
  all_goals simp [hnil, queuedOf, cancelledOf]

/-! ### One party is told more -/

lemma queuedOf_perm (u v : List (List Reply)) (n e : List Reply) :
    (queuedOf (u ++ (n ++ e) :: v).flatten).Perm (queuedOf (u ++ n :: v).flatten ++ queuedOf e) := by
  rw [← Reply.queuedOf_append]
  exact (Parties.flatten_perm u v n e).filterMap _

lemma cancelledOf_perm (u v : List (List Reply)) (n e : List Reply) :
    (cancelledOf (u ++ (n ++ e) :: v).flatten).Perm
      (cancelledOf (u ++ n :: v).flatten ++ cancelledOf e) := by
  rw [← Reply.cancelledOf_append]
  exact (Parties.flatten_perm u v n e).filterMap _

lemma Told.id_le (h : Told q ns) {n : List Reply} (hn : n ∈ ns) {id : Nat}
    (hid : id ∈ (queuedOf n).map Prod.fst) : id ≤ q.lastId := by
  have hsub : (queuedOf n).Sublist (queuedOf ns.flatten) :=
    (List.sublist_flatten_of_mem hn).filterMap _
  have hmem := h.ids.subset ((hsub.map Prod.fst).subset hid)
  have hlt := (List.mem_range'_1.1 hmem).2
  omega

/-- The parties' own numbers stay in order if only greater ones are told. -/
lemma Told.own_append (h : Told q (u ++ n :: v))
    (he : ((queuedOf (n ++ e)).map Prod.fst).Pairwise (· < ·)) :
    ∀ w ∈ u ++ (n ++ e) :: v, ((queuedOf w).map Prod.fst).Pairwise (· < ·) := by
  intro w hw
  simp only [List.mem_append, List.mem_cons] at hw
  rcases hw with hw | rfl | hw
  · exact h.own w (by simp [hw])
  · exact he
  · exact h.own w (by simp [hw])

/-! ### Calls -/

/-- Numbers and links are all that is told. -/
lemma Told.of_same {q' : Queue} (h : Told q ns) (hordered : q'.Ordered)
    (hlast : q'.lastId = q.lastId)
    (hsame : q'.entries.map (fun d => (d.id, d.link)) = q.entries.map fun d => (d.id, d.link)) :
    Told q' ns := by
  refine ⟨hordered, hlast ▸ h.ids, h.own, h.cancelled, hlast ▸ h.given, fun id link => ?_⟩
  rw [← h.entries]
  have hmem := congrArg ((id, link) ∈ ·) hsame
  simpa [Prod.ext_iff] using hmem

lemma Told.push (h : Told q (u ++ n :: v)) (hroom : q.lastId + 1 < UInt64.size) (link : Text)
    (m : Module) : Told (q.push link m).2 (u ++ (n ++ [.queued q.nextId link]) :: v) := by
  have hid : q.nextId = q.lastId + 1 := nextId_of_lt hroom
  have hqueued := queuedOf_perm u v n [.queued q.nextId link]
  have hcancelled := cancelledOf_perm u v n [.queued q.nextId link]
  have hnone : cancelledOf [.queued q.nextId link] = [] := rfl
  have hone : queuedOf [.queued q.nextId link] = [(q.nextId, link)] := rfl
  rw [hnone, List.append_nil] at hcancelled
  rw [hone] at hqueued
  refine ⟨h.ordered.push hroom link m, ?_, h.own_append ?_, ?_, ?_, fun id l => ?_⟩
  · have hids : ((queuedOf (u ++ n :: v).flatten ++ [(q.nextId, link)]).map Prod.fst).Perm
        (List.range' 1 q.lastId ++ [1 + q.lastId]) := by
      rw [List.map_append, List.map_singleton, hid, Nat.add_comm]
      exact h.ids.append_right _
    have hlast : (q.push link m).2.lastId = q.lastId + 1 := hid
    rw [hlast, List.range'_1_concat]
    exact (hqueued.map Prod.fst).trans hids
  · rw [Reply.queuedOf_append, hone, List.map_append, List.pairwise_append]
    refine ⟨h.own n (by simp), List.pairwise_singleton _ _, fun i hi j hj => ?_⟩
    have hle : i ≤ q.lastId := h.id_le (by simp) hi
    rw [List.map_singleton, List.mem_singleton] at hj
    omega
  · exact hcancelled.nodup_iff.2 h.cancelled
  · intro id hmem
    have hle := h.given id (hcancelled.subset hmem)
    have hlast : (q.push link m).2.lastId = q.lastId + 1 := hid
    omega
  · have hnew : q.nextId ∉ cancelledOf (u ++ n :: v).flatten := by
      intro hmem
      have hle := h.given _ hmem
      omega
    rw [hqueued.mem_iff, hcancelled.mem_iff, List.mem_append, or_and_right, ← h.entries,
      List.mem_singleton, Prod.mk.injEq]
    simp only [Queue.push, List.mem_append, List.mem_singleton, or_and_right, exists_or,
      exists_eq_left]
    refine or_congr_right ⟨?_, ?_⟩
    · rintro ⟨rfl, rfl⟩
      exact ⟨⟨rfl, rfl⟩, hnew⟩
    · rintro ⟨⟨rfl, rfl⟩, -⟩
      exact ⟨rfl, rfl⟩

/-- A number that names no download is told of to nobody. -/
lemma Told.cancel_none (h : Told q ns) {id : Nat} (hid : q.get? id = none) :
    Told (q.cancel id).2 ns := by
  have hall : (q.cancel id).2.entries = q.entries := by
    rw [h.ordered.entries_cancel, List.filter_eq_self]
    simpa using get?_eq_none_iff.1 hid
  exact h.of_same (h.ordered.cancel id) rfl (by rw [hall])

lemma Told.cancel_some (h : Told q (u ++ n :: v)) {id : Nat} {d : Download}
    (hd : q.get? id = some d) :
    Told (q.cancel id).2 (u ++ (n ++ [.cancelled d.id]) :: v) := by
  obtain ⟨hmem, rfl⟩ := h.ordered.get?_eq_some_iff.1 hd
  have hqueued := queuedOf_perm u v n [.cancelled d.id]
  have hcancelled := cancelledOf_perm u v n [.cancelled d.id]
  have hnone : queuedOf [.cancelled d.id] = [] := rfl
  have hone : cancelledOf [.cancelled d.id] = [d.id] := rfl
  rw [hnone, List.append_nil] at hqueued
  rw [hone] at hcancelled
  have hnew : d.id ∉ cancelledOf (u ++ n :: v).flatten :=
    ((h.entries d.id d.link).1 ⟨d, hmem, rfl, rfl⟩).2
  refine ⟨h.ordered.cancel d.id, (hqueued.map Prod.fst).trans h.ids, h.own_append ?_, ?_, ?_,
    fun id link => ?_⟩
  · rw [Reply.queuedOf_append, hnone, List.append_nil]
    exact h.own n (by simp)
  · rw [hcancelled.nodup_iff, List.nodup_append]
    refine ⟨h.cancelled, List.nodup_singleton _, fun i hi j hj => ?_⟩
    rw [List.mem_singleton.1 hj]
    exact fun heq => hnew (heq ▸ hi)
  · intro id hid
    rcases List.mem_append.1 (hcancelled.subset hid) with hid | hid
    · exact h.given id hid
    · rw [List.mem_singleton.1 hid]
      exact h.ordered.given d hmem
  · rw [hqueued.mem_iff, hcancelled.mem_iff, List.mem_append, List.mem_singleton, not_or,
      ← and_assoc, ← h.entries, h.ordered.entries_cancel]
    simp only [List.mem_filter, decide_eq_true_eq]
    constructor
    · rintro ⟨e, ⟨he, hne⟩, rfl, rfl⟩
      exact ⟨⟨e, he, rfl, rfl⟩, hne⟩
    · rintro ⟨⟨e, he, rfl, rfl⟩, hne⟩
      exact ⟨e, ⟨he, hne⟩, rfl, rfl⟩

lemma Told.setPaused (h : Told q ns) (id : Nat) (flag : Bool) :
    Told (q.setPaused id flag).2 ns := by
  refine h.of_same (h.ordered.setPaused id flag) rfl ?_
  rw [h.ordered.entries_setPaused, List.map_map]
  simp [Function.comp_def]

/-- **One call**, with its news told to the party that has made it. -/
theorem Told.call {s : Store} (h : Told s.queue (u ++ n :: v)) (c : Call)
    (hroom : c.isPush → s.queue.lastId + 1 < UInt64.size) :
    Told (c.run s).2.queue (u ++ (n ++ c.news (c.run s).1) :: v) := by
  cases c with
  | push link m => exact h.push (hroom rfl) link m
  | cancel id =>
    rcases hd : s.queue.get? id with _ | d
    · have hnews : (Call.cancel id).news ((Call.cancel id).run s).1 = [] := by
        simp only [Call.run, Queue.cancel, hd, Call.news]
      rw [hnews, List.append_nil]
      exact h.cancel_none hd
    · have hnews : (Call.cancel id).news ((Call.cancel id).run s).1 = [.cancelled d.id] := by
        simp only [Call.run, Queue.cancel, hd, Call.news]
      rw [hnews]
      exact h.cancel_some hd
  | setPaused id flag =>
    have hnews : (Call.setPaused id flag).news ((Call.setPaused id flag).run s).1 = [] := rfl
    rw [hnews, List.append_nil]
    exact h.setPaused id flag
  | load | unload | loaded | has | list =>
    simp only [Call.news, List.append_nil]
    exact h

end Queue

end LinkCourier
