import Mathlib.Data.List.DropRight
import LinkCourier.Line
import LinkCourier.Proofs.Text.Blank

/-!
The words of a line against what is trimmed. Words end at the blanks of ASCII and trimming takes
all white space, so that the two agree on every line whose white space is ASCII. On others a word
can be white space itself, and a word can lose characters at its ends when it is trimmed.
-/

namespace LinkCourier

namespace Text

variable {s t u v w : Text} {c : Char}

/-- All white space in the text is ASCII. -/
def AsciiBlanks (t : Text) : Prop := ∀ c ∈ t, isBlank c → isAsciiBlank c

/-- Only ASCII blanks are trimmed off the text. -/
def TrimsAscii (t : Text) : Prop :=
  ∃ u v, t = u ++ trim t ++ v ∧ (∀ c ∈ u, isAsciiBlank c) ∧ ∀ c ∈ v, isAsciiBlank c

/-! ### Words -/

@[simp] lemma words_nil : words [] = [] := words_eq_nil_iff.2 (List.forall_mem_nil _)

/-- An ASCII blank belongs to no word. -/
lemma words_append_blank (hc : isAsciiBlank c) (s t : Text) :
    words (s ++ c :: t) = words s ++ words t := by
  rw [words, List.splitOnP_append_cons s t hc, List.filter_append, words, words]

lemma words_blanks_append (hw : ∀ c ∈ w, isAsciiBlank c) (t : Text) : words (w ++ t) = words t := by
  induction w with
  | nil => rfl
  | cons c w ih =>
    obtain ⟨hc, hw⟩ := List.forall_mem_cons.1 hw
    have hcons := words_append_blank hc [] (w ++ t)
    rw [words_nil, List.nil_append, List.nil_append] at hcons
    exact hcons.trans (ih hw)

lemma words_append_blanks (hw : ∀ c ∈ w, isAsciiBlank c) (t : Text) : words (t ++ w) = words t := by
  rcases w with _ | ⟨c, w⟩
  · rw [List.append_nil]
  · obtain ⟨hc, hw⟩ := List.forall_mem_cons.1 hw
    rw [words_append_blank hc, words_eq_nil_iff.2 hw, List.append_nil]

/-- A word ends where the text ends or a blank follows. -/
lemma words_word_append (hne : v ≠ []) (hv : ∀ c ∈ v, isAsciiBlank c = false)
    (ht : ∀ c ∈ t.head?, isAsciiBlank c) : words (v ++ t) = v :: words t := by
  have hword : words v = [v] := by
    rw [words, List.splitOnP_eq_singleton hv]
    simpa using hne
  rcases t with _ | ⟨c, t⟩
  · rw [List.append_nil, hword, words_nil]
  · have hc : isAsciiBlank c := ht c rfl
    have hcons : words (c :: t) = words t := words_blanks_append (w := [c]) (by simpa using hc) t
    rw [words_append_blank hc, hword, hcons, List.singleton_append]

/-- What stands around the first word of a text that has words. -/
lemma exists_first_word (h : words t ≠ []) :
    ∃ w v s, t = w ++ v ++ s ∧ (∀ c ∈ w, isAsciiBlank c) ∧ v ≠ [] ∧
      (∀ c ∈ v, isAsciiBlank c = false) ∧ (∀ c ∈ s.head?, isAsciiBlank c) ∧
      words t = v :: words s := by
  obtain ⟨w, hw⟩ : ∃ w, w = t.takeWhile isAsciiBlank := ⟨_, rfl⟩
  obtain ⟨r, hr⟩ : ∃ r, r = t.dropWhile isAsciiBlank := ⟨_, rfl⟩
  have ht : t = w ++ r := by rw [hw, hr, List.takeWhile_append_dropWhile]
  have hblanks : ∀ c ∈ w, isAsciiBlank c := fun c hc => List.mem_takeWhile_imp (hw ▸ hc)
  have hwords : words t = words r := by rw [ht, words_blanks_append hblanks]
  have hv : ∀ c ∈ r.takeWhile (!isAsciiBlank ·), isAsciiBlank c = false := fun c hc => by
    simpa using List.mem_takeWhile_imp hc
  have hs : ∀ c ∈ (r.dropWhile (!isAsciiBlank ·)).head?, isAsciiBlank c := by
    intro c hc
    have hnot := List.head?_dropWhile_not (!isAsciiBlank ·) r
    rw [Option.mem_def.1 hc] at hnot
    simpa using hnot
  have hne : r.takeWhile (!isAsciiBlank ·) ≠ [] := by
    rcases r with _ | ⟨c, r⟩
    · exact absurd (hwords.trans words_nil) h
    · have hc : isAsciiBlank c = false := by
        have hnot := List.head?_dropWhile_not isAsciiBlank t
        rwa [← hr] at hnot
      simp [hc]
  have hcut : r = r.takeWhile (!isAsciiBlank ·) ++ r.dropWhile (!isAsciiBlank ·) :=
    List.takeWhile_append_dropWhile.symm
  refine ⟨w, _, _, ?_, hblanks, hne, hv, hs, ?_⟩
  · rw [List.append_assoc, ← hcut, ht]
  · rw [hwords, ← words_word_append hne hv hs, ← hcut]

/-- The words hold everything but the blanks. -/
lemma flatten_words (t : Text) : (words t).flatten = t.filter (!isAsciiBlank ·) := by
  rw [words, List.flatten_filter_not_isEmpty]
  induction t with
  | nil => simp
  | cons c t ih =>
    rw [List.splitOnP_cons_eq_if_modifyHead]
    by_cases hc : isAsciiBlank c
    · simp [hc, ih]
    · obtain ⟨s, ss, hsplit⟩ := List.exists_cons_of_ne_nil (List.splitOnP_ne_nil isAsciiBlank t)
      rw [hsplit, List.flatten_cons] at ih
      simp [hc, hsplit, ih]

lemma isAsciiBlank_of_mem_words (hw : w ∈ words t) (hc : c ∈ w) : isAsciiBlank c = false := by
  have hmem : c ∈ (words t).flatten := List.mem_flatten.2 ⟨w, hw, hc⟩
  rw [flatten_words] at hmem
  simpa using (List.mem_filter.1 hmem).2

/-! ### Trimming -/

lemma exists_trimmed (t : Text) :
    ∃ u v, t = u ++ trim t ++ v ∧ (∀ c ∈ u, isBlank c) ∧ ∀ c ∈ v, isBlank c := by
  refine ⟨t.takeWhile isBlank, (trimStart t).rtakeWhile isBlank, ?_,
    fun c hc => List.mem_takeWhile_imp hc, fun c hc => List.mem_rtakeWhile_imp hc⟩
  rw [List.append_assoc, trim, trimEnd_eq_rdropWhile, List.rdropWhile_append_rtakeWhile]
  exact List.takeWhile_append_dropWhile.symm

/-- **The words are those of the trimmed text** exactly if only ASCII blanks are trimmed off. -/
lemma words_trim_iff : words t = words (trim t) ↔ TrimsAscii t := by
  constructor
  · intro h
    obtain ⟨u, v, ht, -, -⟩ := exists_trimmed t
    have hfilter := congrArg List.flatten h
    rw [flatten_words, flatten_words] at hfilter
    have hlength := congrArg List.length hfilter
    rw [congrArg (List.filter _) ht] at hlength
    simp only [List.filter_append, List.length_append] at hlength
    -- Nothing but blanks is left for the two ends.
    have hu : u.filter (!isAsciiBlank ·) = [] := List.length_eq_zero_iff.1 (by omega)
    have hv : v.filter (!isAsciiBlank ·) = [] := List.length_eq_zero_iff.1 (by omega)
    exact ⟨u, v, ht, by simpa using List.filter_eq_nil_iff.1 hu,
      by simpa using List.filter_eq_nil_iff.1 hv⟩
  · rintro ⟨u, v, ht, hu, hv⟩
    have hwords : words (u ++ trim t ++ v) = words (trim t) := by
      rw [words_append_blanks hv, words_blanks_append hu]
    rwa [← ht] at hwords

lemma AsciiBlanks.trimsAscii (h : AsciiBlanks t) : TrimsAscii t := by
  obtain ⟨u, v, ht, hu, hv⟩ := exists_trimmed t
  refine ⟨u, v, ht, fun c hc => h c ?_ (hu c hc), fun c hc => h c ?_ (hv c hc)⟩
  · rw [ht]
    simp [hc]
  · rw [ht]
    simp [hc]

end Text

namespace Line

open Text

variable {l : Line} {t v w : Text}

/-- Verb, arguments, rest and blankness go by one notion of words: the line is blank if it has no
verb, and otherwise it is the verb with white space in front of it, and what follows the verb is
the rest, whose words are the arguments. -/
structure OneTokenisation (l : Line) : Prop where
  verb?_eq_none_iff : l.verb? = none ↔ l.isBlank
  of_verb : ∀ v, l.verb? = some v → ∃ w t, l.text = w ++ v ++ t ∧ (∀ c ∈ w, Text.isBlank c) ∧
    (∀ c ∈ t.head?, isAsciiBlank c) ∧ l.rest = trim t ∧ l.args = Text.words l.rest

lemma verb?_eq_none_iff_blanks : l.verb? = none ↔ ∀ c ∈ l.text, isAsciiBlank c := by
  rw [verb?, List.head?_eq_none_iff, Line.words, words_eq_nil_iff]

lemma verb?_eq_none_iff : l.verb? = none ↔ l.isBlank ∧ AsciiBlanks l.text := by
  rw [verb?_eq_none_iff_blanks, isBlank, isBlankText_iff]
  constructor
  · intro h
    exact ⟨fun c hc => isBlank_of_isAsciiBlank (h c hc), fun c hc _ => h c hc⟩
  · rintro ⟨hblank, hascii⟩ c hc
    exact hascii c hc (hblank c hc)

/-- The line around its verb; the arguments are the words of what follows. -/
lemma exists_around_verb (h : l.verb? = some v) :
    ∃ w t, l.text = w ++ v ++ t ∧ (∀ c ∈ w, isAsciiBlank c) ∧ v ≠ [] ∧
      (∀ c ∈ v, isAsciiBlank c = false) ∧ (∀ c ∈ t.head?, isAsciiBlank c) ∧ l.args = Text.words t := by
  have hne : Text.words l.text ≠ [] := by
    intro hnil
    rw [verb?, Line.words, hnil] at h
    cases h
  obtain ⟨w, u, t, htext, hw, hu, hword, ht, hwords⟩ := exists_first_word hne
  rw [verb?, Line.words, hwords, List.head?_cons, Option.some.injEq] at h
  subst h
  refine ⟨w, t, htext, hw, hu, hword, ht, ?_⟩
  rw [args, Line.words, hwords]
  rfl

/-- The rest follows the verb, unless the verb is itself white space. -/
lemma rest_eq_trim (htext : l.text = w ++ v ++ t) (hw : ∀ c ∈ w, isAsciiBlank c)
    (hv : ∀ c ∈ v, isAsciiBlank c = false) (ht : ∀ c ∈ t.head?, isAsciiBlank c)
    (hblank : trim v ≠ []) : l.rest = trim t := by
  have hstart : trimStart l.text = trimStart v ++ t := by
    have hleft : trimStart v ≠ [] := mt trimStart_eq_nil_iff.1 (mt trim_eq_nil_iff.2 hblank)
    rw [htext, List.append_assoc, trimStart,
      List.dropWhile_append_of_pos fun c hc => isBlank_of_isAsciiBlank (hw c hc),
      List.dropWhile_append, if_neg (by simpa [trimStart] using hleft), trimStart]
  have hword : ∀ c ∈ trimStart v, (!isAsciiBlank c) = true := by
    intro c hc
    rw [hv c ((List.dropWhile_sublist _).subset hc)]
    rfl
  have hrest : t.dropWhile (!isAsciiBlank ·) = t := by
    rcases t with _ | ⟨c, t⟩
    · rfl
    · exact List.dropWhile_cons_of_neg (by simp [ht c rfl])
  rw [rest, hstart, List.dropWhile_append_of_pos hword, hrest]

/-- A word of a line whose white space is ASCII is no white space. -/
lemma trim_verb_ne_nil (h : AsciiBlanks l.text) (hmem : ∀ c ∈ v, c ∈ l.text) (hne : v ≠ [])
    (hv : ∀ c ∈ v, isAsciiBlank c = false) : trim v ≠ [] := by
  intro hnil
  obtain ⟨c, v, rfl⟩ := List.exists_cons_of_ne_nil hne
  have hc : Text.isBlank c := isBlankText_iff.1 (trim_eq_nil_iff.1 hnil) c List.mem_cons_self
  have hascii := h c (hmem c List.mem_cons_self) hc
  rw [hv c List.mem_cons_self] at hascii
  cases hascii

/-- **The verb, the arguments and the rest of a line.** A line has no verb exactly if it is blank
and its white space is ASCII. Otherwise the arguments are the words of what follows the verb; the
rest is the same text trimmed, unless the verb is itself white space, and its words are the
arguments exactly if only ASCII blanks have been trimmed off. On a line whose white space is
ASCII all of them go by one notion of words. -/
theorem words_of_line (l : Line) :
    (l.verb? = none ↔ l.isBlank ∧ AsciiBlanks l.text) ∧
      (∀ v, l.verb? = some v → ∃ w t, l.text = w ++ v ++ t ∧ (∀ c ∈ w, isAsciiBlank c) ∧
        (∀ c ∈ t.head?, isAsciiBlank c) ∧ l.args = Text.words t ∧
        (trim v ≠ [] → l.rest = trim t ∧ (l.args = Text.words l.rest ↔ TrimsAscii t))) ∧
      (AsciiBlanks l.text → l.OneTokenisation) := by
  refine ⟨verb?_eq_none_iff, fun v hv => ?_, fun h => ⟨?_, fun v hv => ?_⟩⟩
  · obtain ⟨w, t, htext, hw, -, hword, ht, hargs⟩ := exists_around_verb hv
    refine ⟨w, t, htext, hw, ht, hargs, fun hblank => ?_⟩
    have hrest := rest_eq_trim htext hw hword ht hblank
    rw [hargs, hrest]
    exact ⟨rfl, words_trim_iff⟩
  · rw [verb?_eq_none_iff, and_iff_left h]
  · obtain ⟨w, t, htext, hw, hne, hword, ht, hargs⟩ := exists_around_verb hv
    have hmem : ∀ c ∈ w ++ v ++ t, c ∈ l.text := fun c hc => htext ▸ hc
    have hblank : trim v ≠ [] :=
      trim_verb_ne_nil h (fun c hc => hmem c (by simp [hc])) hne hword
    have hascii : AsciiBlanks t := fun c hc => h c (hmem c (by simp [hc]))
    have hrest := rest_eq_trim htext hw hword ht hblank
    refine ⟨w, t, htext, fun c hc => isBlank_of_isAsciiBlank (hw c hc), ht, hrest, ?_⟩
    rw [hargs, hrest]
    exact words_trim_iff.2 hascii.trimsAscii

/-- An em space at the beginning of an argument is trimmed off the rest, and a vertical tab alone
is the verb of a blank line. -/
theorem not_oneTokenisation :
    let l : Line := ⟨"do \u2003x".toList, Line.unbroken_of_any rfl⟩
    let l' : Line := ⟨['\x0b'], Line.unbroken_of_any rfl⟩
    (l.args = ["\u2003x".toList] ∧ l.rest = ['x'] ∧ ¬ l.OneTokenisation) ∧
      (l'.verb? = some ['\x0b'] ∧ l'.isBlank ∧ ¬ l'.OneTokenisation) := by
  intro l l'
  have hargs : l.args = ["\u2003x".toList] := by decide
  have hrest : l.rest = ['x'] := by decide
  have hverb : l'.verb? = some ['\x0b'] := by decide
  have hblank : l'.isBlank := by decide
  refine ⟨⟨hargs, hrest, fun h => ?_⟩, ⟨hverb, hblank, fun h => ?_⟩⟩
  · obtain ⟨w, t, -, -, -, -, hwords⟩ := h.of_verb "do".toList (by decide)
    rw [hargs, hrest] at hwords
    exact absurd hwords (by decide)
  · rw [h.verb?_eq_none_iff.2 hblank] at hverb
    cases hverb

end Line

end LinkCourier
