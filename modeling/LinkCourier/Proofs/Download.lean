import Mathlib.Data.List.Basic
import LinkCourier.Command
import LinkCourier.Proofs.Text.Blank

/-!
The download of a link: which links make none, and what is read of the two lines of the others.
-/

namespace LinkCourier

namespace Line

variable {l : Line} {verb t : Text} {c : Char}

lemma verb?_of_text (hl : l.text = verb ++ c :: t) (hne : verb ≠ [])
    (hverb : verb.any Text.isAsciiBlank = false) (hc : Text.isAsciiBlank c) :
    l.verb? = some verb := by
  rw [verb?, words, hl, Text.words_append_cons hne hverb hc, List.head?_cons]

/-- What follows the first word is trimmed at both ends. -/
lemma rest_of_text (hl : l.text = verb ++ c :: t) (hne : verb ≠ [])
    (hverb : verb.any Text.isBlank = false) (hc : Text.isAsciiBlank c) :
    l.rest = Text.trim t := by
  have hmem : ∀ d ∈ verb, Text.isBlank d = false := by simpa using hverb
  have hascii : ∀ d ∈ verb, (!Text.isAsciiBlank d) = true := by
    intro d hd
    rw [Bool.not_eq_true']
    by_contra hblank
    have := Text.isBlank_of_isAsciiBlank (c := d) (by simpa using hblank)
    simp [hmem d hd] at this
  have hstart : Text.trimStart l.text = l.text := by
    obtain ⟨d, verb', rfl⟩ := List.exists_cons_of_ne_nil hne
    rw [hl, Text.trimStart, List.cons_append, List.dropWhile_cons_of_neg]
    simp [hmem d (by simp)]
  rw [rest, hstart, hl, List.dropWhile_append_of_pos hascii,
    List.dropWhile_cons_of_neg (by simp [hc]),
    Text.trim_cons_of_isBlank (Text.isBlank_of_isAsciiBlank hc)]

end Line

namespace Command

/-- Nothing is left of the link when it is trimmed, or it holds a line break. -/
def Refused (link : Text) : Prop := Text.trim link = [] ∨ '\r' ∈ link ∨ '\n' ∈ link

variable {link : Text}

instance : Decidable (Refused link) := inferInstanceAs (Decidable (_ ∨ _ ∨ _))

/-- The line of a link. -/
def linkText (link : Text) : Text := downloadVerb.toList ++ ' ' :: link

lemma exists_isBreak_iff : (∃ c ∈ linkText link, isBreak c = true) ↔ '\r' ∈ link ∨ '\n' ∈ link := by
  have hverb : ∀ c ∈ downloadVerb.toList ++ [' '], isBreak c = false :=
    Line.unbroken_of_any (by decide)
  rw [linkText, ← List.singleton_append, ← List.append_assoc]
  constructor
  · rintro ⟨c, hc, hbreak⟩
    rcases List.mem_append.1 hc with hc | hc
    · simp [hverb c hc] at hbreak
    · simp only [isBreak, Bool.or_eq_true, beq_iff_eq] at hbreak
      rcases hbreak with rfl | rfl
      · exact .inl hc
      · exact .inr hc
  · rintro (h | h)
    · exact ⟨_, List.mem_append_right _ h, rfl⟩
    · exact ⟨_, List.mem_append_right _ h, rfl⟩

lemma download_of_refused (h : Refused link) : ∃ f, download link = .error f := by
  rw [download]
  by_cases hblank : Text.isBlankText link
  · exact ⟨.blankLink, if_pos hblank⟩
  rw [if_neg hblank]
  rcases hl : Line.ofText (downloadVerb.toList ++ ' ' :: link) with b | l
  · exact ⟨.brokenLink, rfl⟩
  · have hlink := h.resolve_left (mt Text.trim_eq_nil_iff.1 hblank)
    obtain ⟨c, hc, hbreak⟩ := exists_isBreak_iff.2 hlink
    rw [l.unbroken c (by rwa [Line.ofText_eq_ok_iff.1 hl])] at hbreak
    exact Bool.noConfusion hbreak

/-- A download has two lines. -/
lemma download_of_not_refused (h : ¬ Refused link) :
    ∃ l : Line, l.text = linkText link ∧ download link = .ok ⟨[preambleLine, l], by simp⟩ := by
  rw [Refused, not_or, Text.trim_eq_nil_iff] at h
  obtain ⟨hblank, hbreak⟩ := h
  have hunbroken : ∀ c ∈ linkText link, isBreak c = false := by
    intro c hc
    by_contra hcb
    exact hbreak (exists_isBreak_iff.1 ⟨c, hc, by simpa using hcb⟩)
  have hl : Line.ofText (linkText link) = .ok ⟨linkText link, hunbroken⟩ :=
    Line.ofText_eq_ok_iff.2 rfl
  refine ⟨⟨linkText link, hunbroken⟩, rfl, ?_⟩
  rw [download, if_neg hblank, ← linkText, hl]

/-- The link of a download is trimmed at both ends. -/
lemma link?_of_lines {c : Command} {l : Line} (hc : c.lines = [preambleLine, l])
    (hl : l.text = linkText link) (hlink : Text.trim link ≠ []) :
    c.link? = some (Text.trim link) := by
  have hpreamble : preambleLine.verb? ≠ some downloadVerb.toList := by decide
  have hverb : l.verb? = some downloadVerb.toList :=
    Line.verb?_of_text hl (by decide) (by decide) rfl
  have hrest : l.rest = Text.trim link := Line.rest_of_text hl (by decide) (by decide) rfl
  have hfind : c.lines.find? (·.verb? = some downloadVerb.toList) = some l := by
    rw [hc, List.find?_cons_of_neg (by simpa using hpreamble),
      List.find?_cons_of_pos (by simpa using hverb)]
  rw [link?, hfind]
  simp [hrest, hlink]

end Command

end LinkCourier
