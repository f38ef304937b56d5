import Mathlib.Data.List.Basic
import LinkCourier.Framing.Stream
import LinkCourier.Proofs.Framing.Lines

/-!
What lines come to when they are read in order: a blank line closes a sequence, a bad line
fails it, and otherwise more may come.
-/

namespace LinkCourier.Framing

/-- What is known after some lines, with the lines that have been read. -/
inductive Verdict where
  | closed (read : List Line)
  | failed (read : List Line) (f : Fault)
  | pending (read : List Line)

namespace Verdict

/-- The verdict if other lines have been read before. -/
def after (before : List Line) : Verdict → Verdict
  | closed ls => closed (before ++ ls)
  | failed ls f => failed (before ++ ls) f
  | pending ls => pending (before ++ ls)

/-- A verdict, and the next one if the first one leaves it open. -/
def andThen : Verdict → Verdict → Verdict
  | pending ls, next => next.after ls
  | v, _ => v

section

variable (before ls : List Line) (f : Fault) (next : Verdict)

@[simp] lemma after_closed : (closed ls).after before = closed (before ++ ls) := rfl
@[simp] lemma after_failed : (failed ls f).after before = failed (before ++ ls) f := rfl
@[simp] lemma after_pending : (pending ls).after before = pending (before ++ ls) := rfl

@[simp] lemma closed_andThen : (closed ls).andThen next = closed ls := rfl
@[simp] lemma failed_andThen : (failed ls f).andThen next = failed ls f := rfl
@[simp] lemma pending_andThen : (pending ls).andThen next = next.after ls := rfl

end

@[simp] lemma after_nil (v : Verdict) : v.after [] = v := by cases v <;> rfl

@[simp] lemma after_after (v : Verdict) (ls ms : List Line) :
    (v.after ms).after ls = v.after (ls ++ ms) := by
  cases v <;> simp

lemma andThen_after (v next : Verdict) (ls : List Line) :
    (v.after ls).andThen next = (v.andThen next).after ls := by
  cases v with
  | closed ms => rfl
  | failed ms f => rfl
  | pending ms => exact (after_after next ls ms).symm

end Verdict

variable {limit : UInt64}

/-- Judges lines without their line feeds. -/
def verdict (limit : UInt64) : List Bytes → Verdict
  | [] => .pending []
  | raw :: raws => match readLine limit raw with
    | .error f => .failed [] f
    | .ok l => if l.isBlank then .closed [] else (verdict limit raws).after [l]

lemma verdict_append (us vs : List Bytes) :
    verdict limit (us ++ vs) = (verdict limit us).andThen (verdict limit vs) := by
  induction us with
  | nil => simp [verdict]
  | cons raw us ih =>
    rw [List.cons_append, verdict, verdict]
    rcases readLine limit raw with f | l
    · rfl
    · by_cases hl : l.isBlank
      · simp [hl]
      · simp only [hl, Bool.false_eq_true, if_false, ih, Verdict.andThen_after]

/-! ### The verdicts in words -/

/-- What `raws` say: a line each, and none of them is blank. -/
def Say (limit : UInt64) (raws : List Bytes) (ls : List Line) : Prop :=
  raws.map (readLine limit) = ls.map .ok ∧ ∀ l ∈ ls, l.isBlank = false

def Blank (limit : UInt64) (raw : Bytes) : Prop :=
  ∃ l, readLine limit raw = .ok l ∧ l.isBlank = true

/-- A blank line closes the sequence `ls`. -/
def Closes (limit : UInt64) (raws : List Bytes) (ls : List Line) : Prop :=
  ∃ before raw more, raws = before ++ raw :: more ∧ Say limit before ls ∧ Blank limit raw

/-- After the lines `ls` there is a bad one. -/
def Fails (limit : UInt64) (raws : List Bytes) (ls : List Line) (f : Fault) : Prop :=
  ∃ before raw more, raws = before ++ raw :: more ∧ Say limit before ls ∧
    readLine limit raw = .error f

lemma say_nil : Say limit [] [] := ⟨rfl, by simp⟩

lemma Say.cons {raw : Bytes} {raws : List Bytes} {l : Line} {ls : List Line}
    (hraw : readLine limit raw = .ok l) (hl : l.isBlank = false) (h : Say limit raws ls) :
    Say limit (raw :: raws) (l :: ls) := by
  refine ⟨by simp [hraw, h.1], fun m hm => ?_⟩
  rcases List.mem_cons.1 hm with rfl | hm'
  · exact hl
  · exact h.2 m hm'

/-- What the verdict on `raws` means. -/
def Verdict.Holds (limit : UInt64) (raws : List Bytes) : Verdict → Prop
  | .closed ls => Closes limit raws ls
  | .failed ls f => Fails limit raws ls f
  | .pending ls => Say limit raws ls

lemma Verdict.Holds.after {raw : Bytes} {raws : List Bytes} {l : Line} {v : Verdict}
    (hraw : readLine limit raw = .ok l) (hl : l.isBlank = false) (h : v.Holds limit raws) :
    (v.after [l]).Holds limit (raw :: raws) := by
  cases v with
  | closed ls =>
    obtain ⟨before, b, more, rfl, hsay, hb⟩ := h
    exact ⟨raw :: before, b, more, rfl, hsay.cons hraw hl, hb⟩
  | failed ls f =>
    obtain ⟨before, b, more, rfl, hsay, hb⟩ := h
    exact ⟨raw :: before, b, more, rfl, hsay.cons hraw hl, hb⟩
  | pending ls => exact Say.cons hraw hl h

theorem holds_verdict (limit : UInt64) (raws : List Bytes) :
    (verdict limit raws).Holds limit raws := by
  induction raws with
  | nil => exact say_nil
  | cons raw raws ih =>
    rw [verdict]
    rcases hraw : readLine limit raw with f | l
    · exact ⟨[], raw, raws, rfl, say_nil, hraw⟩
    · by_cases hl : l.isBlank
      · simp only [hl, if_true]
        exact ⟨[], raw, raws, rfl, say_nil, l, hraw, hl⟩
      · have hl' : l.isBlank = false := by simpa using hl
        simp only [hl', Bool.false_eq_true, if_false]
        exact ih.after hraw hl'

lemma verdict_of_say {raws : List Bytes} {ls : List Line} (h : Say limit raws ls) :
    verdict limit raws = .pending ls := by
  induction raws generalizing ls with
  | nil =>
    have : ls = [] := by simpa using h.1.symm
    rw [this, verdict]
  | cons raw raws ih =>
    obtain ⟨hmap, hblank⟩ := h
    rcases ls with _ | ⟨l, ls⟩
    · simp at hmap
    · simp only [List.map_cons, List.cons.injEq] at hmap
      rw [verdict, hmap.1]
      simp only [hblank l (by simp), Bool.false_eq_true, if_false]
      rw [ih ⟨hmap.2, fun m hm => hblank m (by simp [hm])⟩]
      rfl

/-- A verdict is the only one that holds. -/
theorem verdict_eq_iff {raws : List Bytes} {v : Verdict} :
    verdict limit raws = v ↔ v.Holds limit raws := by
  refine ⟨fun h => h ▸ holds_verdict limit raws, fun h => ?_⟩
  cases v with
  | closed ls =>
    obtain ⟨before, raw, more, rfl, hsay, l, hraw, hl⟩ := h
    rw [verdict_append, verdict_of_say hsay, verdict, hraw]
    simp [hl]
  | failed ls f =>
    obtain ⟨before, raw, more, rfl, hsay, hraw⟩ := h
    rw [verdict_append, verdict_of_say hsay, verdict, hraw]
    simp
  | pending ls => exact verdict_of_say h

/-! ### What a sequence comes to -/

lemma finish_reverse (ls : List Line) :
    finish ls.reverse = if h : ls ≠ [] then some ⟨ls, h⟩ else none := by
  simp [finish]

lemma finish_eq_some_iff {ls : List Line} {c : Command} :
    finish ls.reverse = some c ↔ c.lines = ls := by
  rw [finish_reverse]
  split
  · constructor
    · rintro ⟨rfl⟩; rfl
    · rintro rfl; rfl
  · rename_i h
    simp only [ne_eq, not_not] at h
    simp [h, c.nonempty]

lemma elim_finish_reverse (ls : List Line) : (finish ls.reverse).elim [] Command.lines = ls := by
  rw [finish_reverse]
  split
  · rfl
  · rename_i h
    simpa using Eq.symm (not_not.1 h)

/-- The lines of a sequence that ends here. -/
def Verdict.toExcept : Verdict → Except Fault (List Line)
  | .closed ls => .ok ls
  | .failed _ f => .error f
  | .pending ls => .ok ls

section

variable (ls : List Line) (f : Fault)

@[simp] lemma toExcept_closed : (Verdict.closed ls).toExcept = .ok ls := rfl
@[simp] lemma toExcept_failed : (Verdict.failed ls f).toExcept = .error f := rfl
@[simp] lemma toExcept_pending : (Verdict.pending ls).toExcept = .ok ls := rfl

end

lemma toExcept_after (v : Verdict) (ls : List Line) :
    (v.after ls).toExcept = v.toExcept.map (ls ++ ·) := by
  cases v <;> rfl

/-- The command of a sequence that ends here. -/
def Verdict.result (v : Verdict) : Result Failure (Option Command) :=
  match v.toExcept with
  | .ok ls => .ok (finish ls.reverse)
  | .error f => .error (.framing f)

end LinkCourier.Framing
