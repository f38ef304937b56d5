import Mathlib.Data.List.Basic
import Mathlib.Data.Nat.Init
import LinkCourier.Framing.Codec

/-!
Bytes as lines. Every line feed closes a line; what follows the last one is a line only if
nothing more will come.
-/

namespace LinkCourier.Framing

/-- The complete lines of some bytes, without their line feeds. -/
def lines (w : Bytes) : List Bytes := (w.splitOn lf).dropLast

/-- What follows the last line feed. -/
def tail (w : Bytes) : Bytes := (w.splitOn lf).getLast (List.splitOn_ne_nil lf w)

/-- The lines of bytes to which nothing will be added. -/
def allLines (w : Bytes) : List Bytes := lines w ++ if tail w = [] then [] else [tail w]

variable {w raw : Bytes}

lemma lines_of_notMem (h : lf ∉ w) : lines w = [] := by
  simp [lines, List.splitOn_eq_singleton h]

lemma tail_of_notMem (h : lf ∉ w) : tail w = w := by
  simp [tail, List.splitOn_eq_singleton h]

lemma lines_line (h : lf ∉ raw) (w : Bytes) : lines (raw ++ lf :: w) = raw :: lines w := by
  rw [lines, List.splitOn_append_cons_self_of_not_mem h,
    List.dropLast_cons_of_ne_nil (List.splitOn_ne_nil lf w), lines]

lemma tail_line (h : lf ∉ raw) (w : Bytes) : tail (raw ++ lf :: w) = tail w := by
  simp only [tail, List.splitOn_append_cons_self_of_not_mem h]
  exact List.getLast_cons (List.splitOn_ne_nil lf w)

/-- Bytes are built by putting one line after the other in front of bytes without a line feed. -/
@[elab_as_elim]
theorem byLines {P : Bytes → Prop} (w : Bytes) (rest : ∀ w, lf ∉ w → P w)
    (line : ∀ raw w, lf ∉ raw → P w → P (raw ++ lf :: w)) : P w := by
  induction hn : w.length using Nat.strong_induction_on generalizing w with
  | _ n ih =>
    by_cases h : lf ∈ w
    · obtain ⟨raw, w', rfl, hraw⟩ := List.eq_append_cons_of_mem h
      refine line raw w' hraw (ih w'.length ?_ w' rfl)
      rw [← hn, List.length_append, List.length_cons]
      omega
    · exact rest w h

lemma lf_notMem_tail (w : Bytes) : lf ∉ tail w := by
  induction w using byLines with
  | rest w h => rwa [tail_of_notMem h]
  | line raw w h ih => rwa [tail_line h]

/-- **Nothing is lost**: the lines with their line feeds and the rest are the bytes. -/
theorem lines_tail (w : Bytes) : (lines w).flatMap (· ++ [lf]) ++ tail w = w := by
  induction w using byLines with
  | rest w h => simp [lines_of_notMem h, tail_of_notMem h]
  | line raw w h ih => simp [lines_line h, tail_line h, ih]

/-- There is one line for each line feed. -/
lemma length_lines (w : Bytes) : (lines w).length = w.count lf := by
  induction w using byLines with
  | rest w h => rw [lines_of_notMem h, List.count_eq_zero_of_not_mem h, List.length_nil]
  | line raw w h ih =>
    rw [lines_line h, List.length_cons, ih, List.count_append, List.count_eq_zero_of_not_mem h,
      List.count_cons_self]
    omega

lemma tail_of_lines_eq_nil (h : lines w = []) : tail w = w := by
  have hall := lines_tail w
  rwa [h, List.flatMap_nil, List.nil_append] at hall

/-! ### More bytes -/

lemma lines_append (u v : Bytes) : lines (u ++ v) = lines u ++ lines (tail u ++ v) := by
  induction u using byLines with
  | rest u h => simp [lines_of_notMem h, tail_of_notMem h]
  | line raw u h ih =>
    rw [List.append_assoc, List.cons_append, lines_line h, ih, lines_line h, tail_line h,
      List.cons_append]

lemma tail_append (u v : Bytes) : tail (u ++ v) = tail (tail u ++ v) := by
  induction u using byLines with
  | rest u h => rw [tail_of_notMem h]
  | line raw u h ih => rw [List.append_assoc, List.cons_append, tail_line h, ih, tail_line h]

lemma allLines_append (u v : Bytes) : allLines (u ++ v) = lines u ++ allLines (tail u ++ v) := by
  rw [allLines, allLines, lines_append, ← tail_append, List.append_assoc]

lemma allLines_of_notMem (h : lf ∉ w) : allLines w = if w = [] then [] else [w] := by
  rw [allLines, lines_of_notMem h, tail_of_notMem h, List.nil_append]

/-- Bytes after the last line feed are where the next line begins. -/
lemma exists_allLines_append (h : lf ∉ w) (hw : w ≠ []) (v : Bytes) :
    ∃ u more, allLines (w ++ v) = (w ++ u) :: more := by
  induction v using byLines with
  | rest v hv =>
    refine ⟨v, [], ?_⟩
    rw [allLines_of_notMem (by simp [h, hv]), if_neg (by simp [hw])]
  | line raw v hraw =>
    refine ⟨raw, allLines v, ?_⟩
    have hwr : lf ∉ w ++ raw := by simp [h, hraw]
    rw [← List.append_assoc, allLines, lines_line hwr, tail_line hwr, List.cons_append, allLines]

end LinkCourier.Framing
