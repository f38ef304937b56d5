import Mathlib.Data.List.Nodup
import LinkCourier.Shell.Queue

/-!
What the calls on a queue do to its entries.

The entries stand in the order of their numbers, so that a number names one entry at most. On
such a queue taking out the first entry of a number is taking out every one, and changing the
first is changing every one.
-/

namespace LinkCourier.Queue

variable {q : Queue} {id : Nat} {d e : Download} {ds : List Download}

/-- The entries stand in the order of their numbers, and all of these have been given. -/
structure Ordered (q : Queue) : Prop where
  sorted : (q.entries.map (·.id)).Pairwise (· < ·)
  pos : ∀ d ∈ q.entries, 0 < d.id
  given : ∀ d ∈ q.entries, d.id ≤ q.lastId

lemma ordered_empty : Ordered {} where
  sorted := .nil
  pos := by simp
  given := by simp

lemma Ordered.eq_of_id (h : q.Ordered) (hd : d ∈ q.entries) (he : e ∈ q.entries)
    (hid : d.id = e.id) : d = e :=
  List.inj_on_of_nodup_map (h.sorted.imp Nat.ne_of_lt) hd he hid

/-- Fewer entries, or entries with other flags, are in order too. -/
lemma Ordered.of_sublist (h : q.Ordered) (hds : (ds.map (·.id)).Sublist (q.entries.map (·.id))) :
    ({ q with entries := ds } : Queue).Ordered := by
  have hmem : ∀ d ∈ ds, ∃ e ∈ q.entries, e.id = d.id := fun d hd =>
    List.mem_map.1 (hds.subset (List.mem_map_of_mem hd))
  refine ⟨h.sorted.sublist hds, fun d hd => ?_, fun d hd => ?_⟩
  · obtain ⟨e, he, heq⟩ := hmem d hd
    rw [← heq]
    exact h.pos e he
  · obtain ⟨e, he, heq⟩ := hmem d hd
    rw [← heq]
    exact h.given e he

/-! ### Looking up -/

lemma id_of_get? (h : q.get? id = some d) : d.id = id := by
  simpa using List.find?_some h

lemma get?_eq_none_iff : q.get? id = none ↔ ∀ d ∈ q.entries, d.id ≠ id := by
  simp [get?]

lemma Ordered.get?_eq_some_iff (h : q.Ordered) :
    q.get? id = some d ↔ d ∈ q.entries ∧ d.id = id := by
  constructor
  · intro hd
    exact ⟨List.mem_of_find?_eq_some hd, id_of_get? hd⟩
  · rintro ⟨hd, rfl⟩
    rcases he : q.get? d.id with _ | e
    · exact absurd rfl (get?_eq_none_iff.1 he d hd)
    · rw [h.eq_of_id (List.mem_of_find?_eq_some he) hd (id_of_get? he)]

/-! ### Pushing -/

lemma nextId_of_lt (h : q.lastId + 1 < UInt64.size) : q.nextId = q.lastId + 1 :=
  Nat.mod_eq_of_lt h

lemma Ordered.push (h : q.Ordered) (hroom : q.lastId + 1 < UInt64.size) (link : Text)
    (m : Module) : (q.push link m).2.Ordered := by
  have hid : q.nextId = q.lastId + 1 := nextId_of_lt hroom
  refine ⟨?_, ?_, ?_⟩
  · simp only [Queue.push, List.map_append, List.map_cons, List.map_nil, List.pairwise_append,
      List.pairwise_singleton, List.mem_map, List.mem_singleton]
    refine ⟨h.sorted, trivial, ?_⟩
    rintro _ ⟨d, hd, rfl⟩ _ rfl
    have := h.given d hd
    omega
  · intro d hd
    rcases List.mem_append.1 hd with hd | hd
    · exact h.pos d hd
    · rw [List.mem_singleton.1 hd]
      simp only
      omega
  · intro d hd
    rcases List.mem_append.1 hd with hd | hd
    · have := h.given d hd
      simp only [Queue.push]
      omega
    · rw [List.mem_singleton.1 hd]
      exact Nat.le_refl q.nextId

/-! ### Cancelling -/

/-- Among entries in order the first one of a number is the only one. -/
lemma eraseP_id_eq_filter {ds : List Download} (h : (ds.map (·.id)).Pairwise (· < ·)) :
    ds.eraseP (·.id = id) = ds.filter (·.id ≠ id) := by
  induction ds with
  | nil => rfl
  | cons d ds ih =>
    obtain ⟨hd, hds⟩ := List.pairwise_cons.1 h
    by_cases hid : d.id = id
    · have hrest : ∀ e ∈ ds, e.id ≠ id := by
        intro e he heq
        have hlt : d.id < e.id := hd e.id (List.mem_map_of_mem he)
        omega
      have hall : ds.filter (·.id ≠ id) = ds := by
        rw [List.filter_eq_self]
        simpa using hrest
      rw [List.eraseP_cons_of_pos (by simpa using hid), List.filter_cons_of_neg (by simpa using hid),
        hall]
    · rw [List.eraseP_cons_of_neg (by simpa using hid), List.filter_cons_of_pos (by simpa using hid),
        ih hds]

lemma Ordered.entries_cancel (h : q.Ordered) (id : Nat) :
    (q.cancel id).2.entries = q.entries.filter (·.id ≠ id) :=
  eraseP_id_eq_filter h.sorted

lemma Ordered.cancel (h : q.Ordered) (id : Nat) : (q.cancel id).2.Ordered :=
  h.of_sublist (List.eraseP_sublist.map _)

/-! ### Pausing and resuming -/

/-- Changes the flag of the entries of a number. -/
def flagged (id : Nat) (flag : Bool) (d : Download) : Download :=
  if d.id = id then { d with paused := flag } else d

@[simp] lemma flagged_id (id : Nat) (flag : Bool) (d : Download) :
    (flagged id flag d).id = d.id := by
  rw [flagged]
  split <;> rfl

@[simp] lemma flagged_link (id : Nat) (flag : Bool) (d : Download) :
    (flagged id flag d).link = d.link := by
  rw [flagged]
  split <;> rfl

lemma updateFirst_eq_map {ds : List Download} {flag : Bool}
    (h : (ds.map (·.id)).Pairwise (· < ·)) :
    updateFirst ({ · with paused := flag }) id ds = ds.map (flagged id flag) := by
  induction ds with
  | nil => rfl
  | cons d ds ih =>
    obtain ⟨hd, hds⟩ := List.pairwise_cons.1 h
    rw [updateFirst, List.map_cons, flagged]
    by_cases hid : d.id = id
    · have hrest : ds.map (flagged id flag) = ds.map (fun e => e) := by
        refine List.map_congr_left fun e he => ?_
        have hlt : d.id < e.id := hd e.id (List.mem_map_of_mem he)
        exact if_neg (by omega)
      rw [if_pos hid, if_pos hid, hrest, List.map_id']
    · rw [if_neg hid, if_neg hid, ih hds]

lemma Ordered.entries_setPaused (h : q.Ordered) (id : Nat) (flag : Bool) :
    (q.setPaused id flag).2.entries = q.entries.map (flagged id flag) :=
  updateFirst_eq_map h.sorted

lemma Ordered.setPaused (h : q.Ordered) (id : Nat) (flag : Bool) :
    (q.setPaused id flag).2.Ordered := by
  have hids : (q.setPaused id flag).2.entries.map (·.id) = q.entries.map (·.id) := by
    rw [h.entries_setPaused, List.map_map]
    simp [Function.comp_def]
  exact h.of_sublist (hids ▸ .refl _)

end LinkCourier.Queue
