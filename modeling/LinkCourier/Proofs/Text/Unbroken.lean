import Mathlib.Data.List.TakeDrop
import LinkCourier.Line
import LinkCourier.Text.Decimal

/-!
Texts that stay on one line. What is put together of such texts stays on one line, and so do
the numerals.
-/

namespace LinkCourier.Text

/-- A text without line breaks. -/
def Unbroken (t : Text) : Prop := ∀ c ∈ t, isBreak c = false

instance (t : Text) : Decidable (Unbroken t) :=
  decidable_of_iff (t.any isBreak = false) (by simp [Unbroken])

variable {s t u : Text} {c : Char}

lemma isBreak_eq_false_iff : isBreak c = false ↔ c ≠ '\r' ∧ c ≠ '\n' := by
  simp [isBreak]

lemma unbroken_iff : Unbroken t ↔ '\r' ∉ t ∧ '\n' ∉ t := by
  constructor
  · intro h
    exact ⟨fun hc => (isBreak_eq_false_iff.1 (h _ hc)).1 rfl,
      fun hc => (isBreak_eq_false_iff.1 (h _ hc)).2 rfl⟩
  · rintro ⟨hr, hn⟩ c hc
    exact isBreak_eq_false_iff.2 ⟨fun h => hr (h ▸ hc), fun h => hn (h ▸ hc)⟩

@[simp] lemma unbroken_nil : Unbroken [] := nofun

@[simp] lemma unbroken_cons : Unbroken (c :: t) ↔ isBreak c = false ∧ Unbroken t :=
  List.forall_mem_cons

@[simp] lemma unbroken_append : Unbroken (s ++ t) ↔ Unbroken s ∧ Unbroken t :=
  List.forall_mem_append

lemma Unbroken.of_subset (h : Unbroken t) (hs : s ⊆ t) : Unbroken s := fun c hc => h c (hs hc)

lemma Unbroken.reverse (h : Unbroken t) : Unbroken t.reverse :=
  h.of_subset fun _ hc => List.mem_reverse.1 hc

lemma Unbroken.span (h : Unbroken t) (p : Char → Bool) :
    Unbroken (t.span p).1 ∧ Unbroken (t.span p).2 := by
  rw [List.span_eq_takeWhile_dropWhile]
  exact ⟨h.of_subset (List.takeWhile_sublist p).subset, h.of_subset (List.dropWhile_sublist p).subset⟩

lemma Unbroken.dropWhile (h : Unbroken t) (p : Char → Bool) : Unbroken (t.dropWhile p) :=
  h.of_subset (List.dropWhile_sublist p).subset

lemma unbroken_flatten {ts : List Text} (h : ∀ t ∈ ts, Unbroken t) : Unbroken ts.flatten := by
  intro c hc
  obtain ⟨t, ht, hct⟩ := List.mem_flatten.1 hc
  exact h t ht c hct

lemma unbroken_intercalate {ts : List Text} (hs : Unbroken s) (h : ∀ t ∈ ts, Unbroken t) :
    Unbroken (List.intercalate s ts) := by
  induction ts with
  | nil => exact unbroken_nil
  | cons t ts ih =>
    obtain ⟨ht, hts⟩ := List.forall_mem_cons.1 h
    cases ts with
    | nil => simpa [List.intercalate] using ht
    | cons u us =>
      rw [List.intercalate_cons_cons]
      exact unbroken_append.2 ⟨unbroken_append.2 ⟨ht, hs⟩, ih hts⟩

/-- The pieces of a text have no other characters than the text. -/
lemma unbroken_splitOnP (h : Unbroken t) (p : Char → Bool) : ∀ s ∈ t.splitOnP p, Unbroken s := by
  induction t with
  | nil => simp
  | cons c t ih =>
    obtain ⟨hc, ht⟩ := unbroken_cons.1 h
    have hpieces := ih ht
    rw [List.splitOnP_cons_eq_if_modifyHead]
    split
    · exact List.forall_mem_cons.2 ⟨unbroken_nil, hpieces⟩
    · rcases hsplit : t.splitOnP p with _ | ⟨s, ss⟩
      · simp
      · rw [hsplit] at hpieces
        obtain ⟨hs, hss⟩ := List.forall_mem_cons.1 hpieces
        exact List.forall_mem_cons.2 ⟨unbroken_cons.2 ⟨hc, hs⟩, hss⟩

lemma unbroken_words (h : Unbroken t) : ∀ s ∈ words t, Unbroken s := by
  intro s hs
  exact unbroken_splitOnP h _ s (List.mem_filter.1 hs).1

lemma unbroken_trim (h : Unbroken t) : Unbroken (trim t) := by
  have hstart : Unbroken (trimStart t) := h.dropWhile isBlank
  exact (hstart.reverse.dropWhile isBlank).reverse

lemma unbroken_padRight (n : ℕ) (h : Unbroken t) : Unbroken (padRight n t) := by
  refine unbroken_append.2 ⟨h, fun c hc => ?_⟩
  rw [List.eq_of_mem_replicate hc]
  rfl

/-! ### Numerals -/

lemma isBreak_digitChar (n : ℕ) : isBreak (Nat.digitChar n) = false := by
  rcases Nat.lt_or_ge n 16 with hn | hn
  · have hsmall : ∀ m < 16, isBreak (Nat.digitChar m) = false := by decide
    exact hsmall n hn
  · have hstar : Nat.digitChar n = '*' := by
      unfold Nat.digitChar
      repeat rw [if_neg (by omega)]
    rw [hstar]
    rfl

/-- The digits of a number are put in front of what there is. -/
lemma unbroken_toDigitsCore (b fuel n : ℕ) (h : Unbroken t) :
    Unbroken (Nat.toDigitsCore b fuel n t) := by
  induction fuel generalizing n t with
  | zero => exact h
  | succ fuel ih =>
    have hdigit : Unbroken (Nat.digitChar (n % b) :: t) := unbroken_cons.2 ⟨isBreak_digitChar _, h⟩
    rw [Nat.toDigitsCore]
    split
    · exact hdigit
    · exact ih (n / b) hdigit

lemma unbroken_toDigits (b n : ℕ) : Unbroken (Nat.toDigits b n) :=
  unbroken_toDigitsCore b (n + 1) n unbroken_nil

end LinkCourier.Text
