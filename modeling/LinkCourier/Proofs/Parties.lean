import Mathlib.Data.List.Basic
import Mathlib.Data.List.Perm.Basic

/-!
Parties that take turns: lists in which one member is replaced at a time.
-/

namespace LinkCourier.Parties

variable {α : Type*}

/-- The party of a number has others before it and others after it. -/
lemma exists_around {l : List α} {i : Nat} {x : α} (h : l[i]? = some x) :
    ∃ u v, l = u ++ x :: v ∧ ∀ y, l.set i y = u ++ y :: v := by
  obtain ⟨hi, rfl⟩ := List.getElem?_eq_some_iff.1 h
  refine ⟨l.take i, l.drop (i + 1), ?_, fun y => ?_⟩
  · rw [List.getElem_cons_drop, List.take_append_drop]
  · rw [List.set_eq_take_append_cons_drop, if_pos hi]

/-- What is said last may be said by anyone. -/
lemma flatten_perm (u v : List (List α)) (n e : List α) :
    (u ++ (n ++ e) :: v).flatten.Perm ((u ++ n :: v).flatten ++ e) := by
  simp only [List.flatten_append, List.flatten_cons, List.append_assoc]
  exact (List.perm_append_comm.append_left n).append_left u.flatten

end LinkCourier.Parties
