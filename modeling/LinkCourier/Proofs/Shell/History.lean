import Mathlib.Data.List.Basic
import LinkCourier.Proofs.Shell.Queue

/-!
The queue after a history of calls, read off the history alone.

A download is listed as long as no later call cancels it, and its flag is the last one that has
been set since it was pushed. What a call answers depends on the calls before it in the same way.
-/

namespace LinkCourier.Queue

/-! ### Calls -/

/-- A call on a queue. -/
inductive Op where
  | push (link : Text) (m : Module)
  | cancel (id : Nat)
  | setPaused (id : Nat) (flag : Bool)
  | get (id : Nat)
  | list
  deriving DecidableEq

namespace Op

abbrev Answer : Op → Type
  | .push _ _ => Download
  | .cancel _ => Option Download
  | .setPaused _ _ => Option Bool
  | .get _ => Option Download
  | .list => List Download

def run (q : Queue) : (o : Op) → o.Answer × Queue
  | .push link m => q.push link m
  | .cancel id => q.cancel id
  | .setPaused id flag => q.setPaused id flag
  | .get id => (q.get? id, q)
  | .list => (q.entries, q)

def isPush : Op → Bool
  | .push _ _ => true
  | _ => false

end Op

/-- The queue after calls in order. -/
def after (q : Queue) (ops : List Op) : Queue := ops.foldl (fun q o => (o.run q).2) q

@[simp] lemma after_nil (q : Queue) : after q [] = q := rfl

lemma after_append (q : Queue) (u v : List Op) : after q (u ++ v) = after (after q u) v :=
  List.foldl_append

@[simp] lemma after_cons (q : Queue) (o : Op) (ops : List Op) :
    after q (o :: ops) = after (o.run q).2 ops := rfl

/-! ### What a history says -/

def pushes (ops : List Op) : Nat := ops.countP Op.isPush

lemma pushes_cons (o : Op) (ops : List Op) : pushes (o :: ops) = pushes ops + pushes [o] := by
  simp [pushes, List.countP_cons]

lemma pushes_append (u v : List Op) : pushes (u ++ v) = pushes u + pushes v :=
  List.countP_append

/-- The flags that are set for a number. -/
def flags (id : Nat) (ops : List Op) : List Bool :=
  ops.filterMap fun
    | .setPaused i flag => if i = id then some flag else none
    | _ => none

/-- What becomes of a download: it is gone if it is cancelled, and otherwise has the last flag
that is set. -/
def fate (d : Download) (since : List Op) : Option Download :=
  if .cancel d.id ∈ since then none
  else some { d with paused := (flags d.id since).getLast?.getD d.paused }

/-- The downloads that are left of those pushed, numbered from the one after `given` on. -/
def listed (given : Nat) : List Op → List Download
  | [] => []
  | .push link m :: since =>
    (fate { id := given + 1, link, loader := m } since).toList ++ listed (given + 1) since
  | _ :: since => listed given since

/-- The answer to a call after others. -/
def expected (before : List Op) : (o : Op) → o.Answer
  | .push link m => { id := pushes before + 1, link, loader := m }
  | .cancel id => (listed 0 before).find? (·.id = id)
  | .setPaused id flag => ((listed 0 before).find? (·.id = id)).map (·.paused != flag)
  | .get id => (listed 0 before).find? (·.id = id)
  | .list => listed 0 before

variable {q : Queue} {o : Op} {ops : List Op} {d : Download}

/-! ### One more call -/

lemma fate_nil (d : Download) : fate d [] = some d := by simp [fate, flags]

lemma fate_of_other (d : Download) (since : List Op) (hcancel : ∀ id, o ≠ .cancel id)
    (hflag : ∀ id flag, o ≠ .setPaused id flag) : fate d (o :: since) = fate d since := by
  cases o with
  | cancel id => exact absurd rfl (hcancel id)
  | setPaused id flag => exact absurd rfl (hflag id flag)
  | push | get | list => simp [fate, flags]

lemma fate_cancel (d : Download) (id : Nat) (since : List Op) :
    fate d (.cancel id :: since) = if d.id = id then none else fate d since := by
  by_cases hid : d.id = id
  · simp [fate, hid]
  · simp [fate, flags, hid]

lemma fate_setPaused (d : Download) (id : Nat) (flag : Bool) (since : List Op) :
    fate d (.setPaused id flag :: since) = fate (flagged id flag d) since := by
  by_cases hid : d.id = id
  · have hflags : flags d.id (.setPaused id flag :: since) = flag :: flags d.id since := by
      simp [flags, hid]
    have hlast : (flag :: flags d.id since).getLast?.getD d.paused =
        (flags d.id since).getLast?.getD flag := by
      rw [List.getLast?_cons, Option.getD_some]
    have hd : flagged id flag d = { d with paused := flag } := if_pos hid
    simp only [fate, hflags, hlast, hd, List.mem_cons, reduceCtorEq, false_or]
  · have hflags : flags d.id (.setPaused id flag :: since) = flags d.id since := by
      simp [flags, Ne.symm hid]
    have hd : flagged id flag d = d := if_neg hid
    simp only [fate, hflags, hd, List.mem_cons, reduceCtorEq, false_or]

/-- Room for the numbers of all pushes. -/
def Room (q : Queue) (ops : List Op) : Prop := q.lastId + pushes ops < UInt64.size

lemma lastId_run (hroom : q.Room [o]) : (o.run q).2.lastId = q.lastId + pushes [o] := by
  cases o with
  | push link m => exact nextId_of_lt hroom
  | cancel | setPaused | get | list => rfl

lemma Ordered.run (h : q.Ordered) (hroom : q.Room [o]) : (o.run q).2.Ordered := by
  cases o with
  | push link m => exact h.push hroom link m
  | cancel id => exact h.cancel id
  | setPaused id flag => exact h.setPaused id flag
  | get | list => exact h

/-- Whether a call is made before or counted to what follows, the same downloads are left. -/
lemma Ordered.listed_run (h : q.Ordered) (hroom : q.Room [o]) (since : List Op) :
    (o.run q).2.entries.filterMap (fate · since) ++ listed (o.run q).2.lastId since =
      q.entries.filterMap (fate · (o :: since)) ++ listed q.lastId (o :: since) := by
  have hkeep (hcancel : ∀ id, o ≠ .cancel id) (hflag : ∀ id flag, o ≠ .setPaused id flag) :
      q.entries.filterMap (fate · (o :: since)) = q.entries.filterMap (fate · since) :=
    List.filterMap_congr fun d _ => fate_of_other d since hcancel hflag
  cases o with
  | push link m =>
    have hid : q.nextId = q.lastId + 1 := nextId_of_lt hroom
    rw [hkeep (by simp) (by simp)]
    simp only [Op.run, Queue.push, hid, listed, List.filterMap_append, List.append_assoc,
      List.filterMap_cons, List.filterMap_nil]
    rcases fate { id := q.lastId + 1, link, loader := m } since with _ | e <;> rfl
  | cancel id =>
    have hentries : (q.cancel id).2.entries.filterMap (fate · since) =
        q.entries.filterMap (fate · (.cancel id :: since)) := by
      rw [h.entries_cancel, List.filterMap_filter]
      refine List.filterMap_congr fun d _ => ?_
      rw [fate_cancel]
      by_cases hid : d.id = id <;> simp [hid]
    exact congrArg (· ++ listed q.lastId since) hentries
  | setPaused id flag =>
    have hentries : (q.setPaused id flag).2.entries.filterMap (fate · since) =
        q.entries.filterMap (fate · (.setPaused id flag :: since)) := by
      rw [h.entries_setPaused, List.filterMap_map]
      exact List.filterMap_congr fun d _ => (fate_setPaused d id flag since).symm
    exact congrArg (· ++ listed q.lastId since) hentries
  | get | list =>
    rw [hkeep (by simp) (by simp)]
    rfl

/-! ### A whole history -/

lemma Room.of_cons {q : Queue} {o : Op} {ops : List Op} (hroom : q.Room (o :: ops)) :
    q.Room [o] ∧ (o.run q).2.Room ops := by
  rw [Room, pushes_cons] at hroom
  have hone : q.Room [o] := by
    rw [Room]
    omega
  refine ⟨hone, ?_⟩
  rw [Room, lastId_run hone]
  omega

lemma lastId_after (hroom : q.Room ops) : (after q ops).lastId = q.lastId + pushes ops := by
  induction ops generalizing q with
  | nil => rfl
  | cons o ops ih =>
    obtain ⟨hone, hrest⟩ := hroom.of_cons
    rw [after_cons, ih hrest, lastId_run hone, pushes_cons o ops]
    omega

lemma Ordered.after (h : q.Ordered) (hroom : q.Room ops) : (after q ops).Ordered := by
  induction ops generalizing q with
  | nil => exact h
  | cons o ops ih =>
    obtain ⟨hone, hrest⟩ := hroom.of_cons
    exact ih (h.run hone) hrest

lemma Ordered.entries_after (h : q.Ordered) (hroom : q.Room ops) :
    (Queue.after q ops).entries = q.entries.filterMap (fate · ops) ++ listed q.lastId ops := by
  induction ops generalizing q with
  | nil => simp [listed, fate_nil]
  | cons o ops ih =>
    obtain ⟨hone, hrest⟩ := hroom.of_cons
    rw [after_cons, ih (h.run hone) hrest, h.listed_run hone]

/-! ### Numbers -/

lemma id_of_fate {e : Download} {since : List Op} (h : fate d since = some e) : e.id = d.id := by
  rw [fate] at h
  split at h
  · cases h
  · rw [← Option.some.inj h]

lemma lt_of_mem_listed {given : Nat} (hd : d ∈ listed given ops) : given < d.id := by
  induction ops generalizing given with
  | nil => simp [listed] at hd
  | cons o ops ih =>
    cases o with
    | push link m =>
      rcases List.mem_append.1 hd with hd | hd
      · have hid := id_of_fate (Option.mem_toList.1 hd)
        simp only at hid
        omega
      · have := ih hd
        omega
    | cancel | setPaused | get | list => exact ih hd

/-- A number that has been given does not come back once it is cancelled. -/
lemma Ordered.not_listed_of_cancel (h : q.Ordered) {id : Nat} (hid : id ≤ q.lastId)
    (hroom : q.Room ops) : ∀ d ∈ (Queue.after (q.cancel id).2 ops).entries, d.id ≠ id := by
  intro d hd
  rw [(h.cancel id).entries_after hroom] at hd
  rcases List.mem_append.1 hd with hd | hd
  · obtain ⟨e, he, hfate⟩ := List.mem_filterMap.1 hd
    rw [h.entries_cancel] at he
    rw [id_of_fate hfate]
    simpa using (List.mem_filter.1 he).2
  · have hlast : q.lastId < d.id := lt_of_mem_listed hd
    omega

/-! ### From the empty queue -/

/-- Fewer pushes than there are numbers. -/
lemma room_empty (h : pushes ops < UInt64.size) : ({} : Queue).Room ops := by
  simpa [Room] using h

lemma entries_eq_listed (h : pushes ops < UInt64.size) :
    (after {} ops).entries = listed 0 ops := by
  rw [ordered_empty.entries_after (room_empty h)]
  rfl

lemma lastId_after_empty (h : pushes ops < UInt64.size) : (after {} ops).lastId = pushes ops := by
  rw [lastId_after (room_empty h)]
  exact Nat.zero_add _

lemma answer_eq_expected (h : pushes ops + pushes [o] < UInt64.size) :
    (o.run (after {} ops)).1 = expected ops o := by
  have hlisted : (after {} ops).entries = listed 0 ops := entries_eq_listed (by omega)
  cases o with
  | push link m =>
    have hlast : (after {} ops).lastId = pushes ops := lastId_after_empty (by omega)
    have hid : (after {} ops).nextId = pushes ops + 1 := by
      rw [← hlast]
      exact nextId_of_lt (hlast ▸ h)
    simp only [Op.run, Queue.push, expected, hid]
  | cancel id | get id =>
    simp only [Op.run, cancel, get?, expected, hlisted]
  | setPaused id flag =>
    simp only [Op.run, setPaused, get?, expected, hlisted]
  | list => exact hlisted

/-- **A queue is determined by its history**: it lists the downloads that have been pushed and
not been cancelled since, in the order of their pushes and each with the last flag that has been
set since. The pushes are numbered from 1 on, a number that has been given and cancelled does not
come back, and every call answers by what the calls before it have left. -/
theorem history_determines_queue (ops : List Op) (h : pushes ops < UInt64.size) :
    (after {} ops).entries = listed 0 ops ∧
      ((listed 0 ops).map (·.id)).Pairwise (· < ·) ∧
      (∀ d ∈ listed 0 ops, 0 < d.id ∧ d.id ≤ pushes ops) ∧
      (∀ before id since, ops = before ++ .cancel id :: since → id ≤ pushes before →
        ∀ d ∈ listed 0 ops, d.id ≠ id) ∧
      ∀ before o since, ops = before ++ o :: since →
        (o.run (after {} before)).1 = expected before o := by
  have hlisted : (after {} ops).entries = listed 0 ops := entries_eq_listed h
  have hlast : (after {} ops).lastId = pushes ops := lastId_after_empty h
  have hordered : (after {} ops).Ordered := ordered_empty.after (room_empty h)
  rw [← hlisted]
  refine ⟨rfl, hordered.sorted, fun d hd => ⟨hordered.pos d hd, ?_⟩, ?_, ?_⟩
  · rw [← hlast]
    exact hordered.given d hd
  · rintro before id since rfl hid
    rw [pushes_append, pushes_cons] at h
    have hbefore : ({} : Queue).Room before := room_empty (by omega)
    have hgiven : (after {} before).lastId = pushes before := lastId_after_empty (by omega)
    have hroom : (after {} before).Room since := by
      rw [Room, hgiven]
      omega
    rw [after_append, after_cons]
    exact (ordered_empty.after hbefore).not_listed_of_cancel (hgiven ▸ hid) hroom
  · rintro before o since rfl
    rw [pushes_append, pushes_cons] at h
    exact answer_eq_expected (by omega)

/-- A number that is cancelled before it is given, one that is cancelled and not given again, and
a flag that is set twice. -/
theorem history_determines_queue_cancelled :
    let ops : List Op := [.cancel 2, .push ['a'] .http, .push ['b'] .ftp, .setPaused 2 true,
      .cancel 1, .push ['c'] .http, .setPaused 3 true, .setPaused 3 false, .get 1]
    pushes ops < UInt64.size ∧
      (after {} ops).entries = [⟨2, ['b'], .ftp, true⟩, ⟨3, ['c'], .http, false⟩] ∧
      ((Op.setPaused 3 false).run (after {} (ops.take 7))).1 = some true := by
  intro ops
  have h : pushes ops < UInt64.size := by decide
  obtain ⟨hlisted, -, -, -, hanswers⟩ := history_determines_queue ops h
  refine ⟨h, ?_, ?_⟩
  · rw [hlisted]
    decide
  · rw [hanswers (ops.take 7) (.setPaused 3 false) (ops.drop 8) (by decide)]
    decide

end LinkCourier.Queue
