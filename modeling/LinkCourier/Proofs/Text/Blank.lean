import Mathlib.Data.List.DropRight
import LinkCourier.Text.Blank

/-!
Trimming takes white space from the ends of a text and nothing from between, and words end
where the first ASCII blank stands.
-/

namespace LinkCourier.Text

variable {s t : Text}

lemma trimEnd_eq_rdropWhile (t : Text) : trimEnd t = t.rdropWhile isBlank := rfl

lemma isBlankText_iff : isBlankText t = true ↔ ∀ c ∈ t, isBlank c = true := List.all_eq_true

lemma trimEnd_isPrefix (t : Text) : trimEnd t <+: t := List.rdropWhile_prefix isBlank t

lemma mem_of_mem_trimEnd {c : Char} (h : c ∈ trimEnd t) : c ∈ t := (trimEnd_isPrefix t).subset h

@[simp] lemma trimEnd_trimEnd (t : Text) : trimEnd (trimEnd t) = trimEnd t :=
  List.rdropWhile_idempotent isBlank t

/-- Nothing is trimmed off a text whose last character is no white space. -/
lemma trimEnd_eq_self_iff : trimEnd t = t ↔ ∀ c ∈ t.getLast?, isBlank c = false := by
  rw [trimEnd_eq_rdropWhile, List.rdropWhile_eq_self_iff]
  by_cases h : t = []
  · simp [h]
  · simp [List.getLast?_eq_some_getLast h, h]

lemma trimEnd_eq_nil_iff : trimEnd t = [] ↔ isBlankText t = true :=
  List.rdropWhile_eq_nil_iff.trans isBlankText_iff.symm

/-- The end of a text is trimmed up to its last character that is no white space. -/
lemma trimEnd_append (s t : Text) :
    trimEnd (s ++ t) = if isBlankText t then trimEnd s else s ++ trimEnd t := by
  have hnil : (t.reverse.dropWhile isBlank).isEmpty = isBlankText t := by
    rw [Bool.eq_iff_iff, List.isEmpty_iff, ← trimEnd_eq_nil_iff, trimEnd, List.reverse_eq_nil_iff]
  rw [trimEnd, List.reverse_append, List.dropWhile_append, hnil]
  by_cases h : isBlankText t
  · rw [if_pos h, if_pos h, trimEnd]
  · rw [if_neg h, if_neg h, List.reverse_append, List.reverse_reverse, trimEnd]

@[simp] lemma isBlankText_trimEnd (t : Text) : isBlankText (trimEnd t) = isBlankText t := by
  rw [Bool.eq_iff_iff, ← trimEnd_eq_nil_iff, trimEnd_trimEnd, trimEnd_eq_nil_iff]

lemma trimStart_eq_nil_iff : trimStart t = [] ↔ isBlankText t = true :=
  List.dropWhile_eq_nil_iff.trans isBlankText_iff.symm

/-- The two ends are trimmed independently. -/
lemma trimStart_trimEnd (t : Text) : trimStart (trimEnd t) = trimEnd (trimStart t) := by
  induction t with
  | nil => rfl
  | cons c t ih =>
    rw [← List.singleton_append, trimEnd_append]
    by_cases hc : isBlank c
    · have hstart : trimStart ([c] ++ t) = trimStart t := List.dropWhile_cons_of_pos hc
      rw [hstart]
      by_cases ht : isBlankText t
      · rw [if_pos ht, trimStart_eq_nil_iff.2 ht]
        refine trimStart_eq_nil_iff.2 ?_
        rw [isBlankText_trimEnd]
        simpa [isBlankText] using hc
      · rw [if_neg ht, ← ih]
        exact List.dropWhile_cons_of_pos hc
    · have hstart : trimStart ([c] ++ t) = [c] ++ t := List.dropWhile_cons_of_neg hc
      rw [hstart, trimEnd_append]
      by_cases ht : isBlankText t
      · have hend : trimEnd [c] = [c] := by
          rw [trimEnd_eq_rdropWhile, List.rdropWhile_singleton, if_neg hc]
        rw [if_pos ht, hend]
        exact List.dropWhile_cons_of_neg hc
      · rw [if_neg ht]
        exact List.dropWhile_cons_of_neg hc

lemma trim_trimEnd (t : Text) : trim (trimEnd t) = trim t := by
  rw [trim, trim, trimStart_trimEnd, trimEnd_trimEnd]

lemma trim_cons_of_isBlank {c : Char} (h : isBlank c) (t : Text) : trim (c :: t) = trim t :=
  congrArg trimEnd (List.dropWhile_cons_of_pos h)

lemma trim_eq_nil_iff : trim t = [] ↔ isBlankText t = true := by
  rw [trim, ← trimStart_trimEnd, trimStart_eq_nil_iff, isBlankText_trimEnd]

/-- The first word is what stands before the first ASCII blank, if anything does. -/
lemma words_append_cons {w : Text} {c : Char} (hne : w ≠ []) (hw : w.any isAsciiBlank = false)
    (hc : isAsciiBlank c) (t : Text) : words (w ++ c :: t) = w :: words t := by
  have hmem : ∀ d ∈ w, isAsciiBlank d = false := by simpa using hw
  rw [words, List.splitOnP_append_cons_of_forall_mem hmem c hc, List.filter_cons_of_pos, words]
  simpa using hne

/-- A text without words has nothing in it but ASCII blanks. -/
lemma words_eq_nil_iff : words t = [] ↔ ∀ c ∈ t, isAsciiBlank c := by
  induction t with
  | nil => simp [words]
  | cons c t ih =>
    rw [List.forall_mem_cons, ← ih, words, List.splitOnP_cons_eq_if_modifyHead]
    by_cases hc : isAsciiBlank c
    · simp [hc, words]
    · obtain ⟨s, ss, hsplit⟩ := List.exists_cons_of_ne_nil (List.splitOnP_ne_nil isAsciiBlank t)
      simp [hc, hsplit]

end LinkCourier.Text
