import Mathlib.Data.List.Basic
import Mathlib.Data.List.Forall2
import LinkCourier.Proofs.Framing.Agreement
import LinkCourier.Proofs.Text.Blank
import LinkCourier.Proofs.Text.WellFormed

/-!
Which bytes are a command, said without reading them: segments between line feeds, which of
them are good, and where the first good blank one stands. Main statement: exactly these bytes are
read, and the lines are the segments before that one.
-/

namespace LinkCourier.Framing

/-- What stands between line feeds, and what follows the last one if anything does; each without
one carriage return at its end. -/
def segments (w : Bytes) : List Bytes := (allLines w).map dropCr

namespace Segment

/-- The segment is not over the limit, it is the bytes of a text, and no carriage return stands
before the white space at its end. -/
def Good (limit : ℕ) (s : Bytes) : Prop :=
  s.length ≤ limit ∧ ∃ t, Text.encode t = s ∧ '\r' ∉ Text.trimEnd t

/-- Nothing stands before the white space at the end of the segment. -/
def IsBlank (s : Bytes) : Prop := ∃ t, Text.encode t = s ∧ Text.trimEnd t = []

/-- The line is what stands before the white space at the end of the segment. -/
def Says (s : Bytes) (l : Line) : Prop := ∃ t, Text.encode t = s ∧ l.text = Text.trimEnd t

variable {limit : ℕ} {s : Bytes} {t : Text}

lemma good_encode : Good limit (Text.encode t) ↔
    (Text.encode t).length ≤ limit ∧ '\r' ∉ Text.trimEnd t := by
  refine and_congr_right fun _ => ⟨?_, fun h => ⟨t, rfl, h⟩⟩
  rintro ⟨u, hu, h⟩
  rwa [← Utf8.encode_injective hu]

lemma isBlank_encode : IsBlank (Text.encode t) ↔ Text.trimEnd t = [] := by
  refine ⟨?_, fun h => ⟨t, rfl, h⟩⟩
  rintro ⟨u, hu, h⟩
  rwa [← Utf8.encode_injective hu]

lemma says_encode {l : Line} : Says (Text.encode t) l ↔ l.text = Text.trimEnd t := by
  refine ⟨?_, fun h => ⟨t, rfl, h⟩⟩
  rintro ⟨u, hu, h⟩
  rwa [← Utf8.encode_injective hu]

instance : DecidablePred (Good limit) := fun s =>
  match hd : Utf8.decode s with
  | .ok t => decidable_of_iff ((Text.encode t).length ≤ limit ∧ '\r' ∉ Text.trimEnd t) (by
      rw [← Utf8.decode_eq_ok_iff.1 hd, good_encode])
  | .error f => isFalse (by
      rintro ⟨-, t, ht, -⟩
      rw [Utf8.decode_eq_ok_iff.2 ht] at hd
      cases hd)

instance : DecidablePred IsBlank := fun s =>
  match hd : Utf8.decode s with
  | .ok t => decidable_of_iff (Text.trimEnd t = []) (by
      rw [← Utf8.decode_eq_ok_iff.1 hd, isBlank_encode])
  | .error f => isFalse (by
      rintro ⟨t, ht, -⟩
      rw [Utf8.decode_eq_ok_iff.2 ht] at hd
      cases hd)

end Segment

open Segment

/-- The segments before the first good blank one. -/
def beforeBlank (limit : ℕ) (ss : List Bytes) : List Bytes :=
  ss.takeWhile fun s => ¬ (Good limit s ∧ IsBlank s)

/-- The segments up to the first good blank one, and that one too. -/
def upToBlank (limit : ℕ) (ss : List Bytes) : List Bytes :=
  ss.take ((beforeBlank limit ss).length + 1)

/-- Every segment up to the first good blank one is good, and one of those before is not blank. -/
def WellFormed (w : Bytes) : Prop :=
  (∀ s ∈ upToBlank 8192 (segments w), Good 8192 s) ∧
    ∃ s ∈ beforeBlank 8192 (segments w), ¬ IsBlank s

instance : DecidablePred WellFormed := fun _ => inferInstanceAs (Decidable (_ ∧ _))

/-- The segments before the first good blank one that are not blank. -/
def contents (w : Bytes) : List Bytes :=
  (beforeBlank 8192 (segments w)).filter fun s => ¬ IsBlank s

variable {limit : UInt64} {raw w : Bytes} {raws : List Bytes} {l : Line} {ls : List Line}

/-! ### One segment -/

lemma lf_notMem_dropCr (h : lf ∉ raw) : lf ∉ dropCr raw := by
  rw [dropCr]
  split
  · exact fun hm => h ((List.dropLast_sublist raw).subset hm)
  · exact h

lemma lf_notMem_allLines (w : Bytes) : ∀ raw ∈ allLines w, lf ∉ raw := by
  induction w using byLines with
  | rest w h =>
    rw [allLines_of_notMem h]
    split
    · simp
    · simpa using h
  | line raw w h ih =>
    rw [allLines, lines_line h, tail_line h, List.cons_append]
    intro r hr
    rcases List.mem_cons.1 hr with rfl | hr'
    · exact h
    · exact ih r hr'

lemma newline_notMem {t : Text} (h : lf ∉ Text.encode t) : '\n' ∉ t := by
  intro hm
  refine h (List.mem_flatMap.2 ⟨'\n', hm, ?_⟩)
  decide

/-- A good segment is what some line says. -/
lemma Segment.Good.exists_line {n : ℕ} {s : Bytes} (h : Good n s) (hs : lf ∉ s) : ∃ l, Says s l := by
  obtain ⟨-, t, rfl, hcr⟩ := h
  have hunbroken : ∀ c ∈ Text.trimEnd t, isBreak c = false := by
    intro c hc
    have hcr' : c ≠ '\r' := fun h => hcr (h ▸ hc)
    have hlf' : c ≠ '\n' := fun h => newline_notMem hs (h ▸ Text.mem_of_mem_trimEnd hc)
    simp [isBreak, hcr', hlf']
  exact ⟨⟨Text.trimEnd t, hunbroken⟩, t, rfl, rfl⟩

/-- A line is read from a good segment, and is what it says. -/
lemma readLine_eq_ok_iff : readLine limit raw = .ok l ↔
    Good limit.toNat (dropCr raw) ∧ Says (dropCr raw) l := by
  constructor
  · intro h
    by_cases hlt : limit.toNat < (dropCr raw).length
    · rw [readLine_of_lt hlt] at h
      simp at h
    rw [readLine_of_le (Nat.le_of_not_lt hlt)] at h
    rcases hd : Utf8.decode (dropCr raw) with e | t
    · simp [hd] at h
    rcases hb : Line.ofText (Text.trimEnd t) with b | m
    · simp [hd, hb] at h
    simp only [hd, hb, Except.ok.injEq] at h
    subst h
    have htext := Line.ofText_eq_ok_iff.1 hb
    have hencode := Utf8.decode_eq_ok_iff.1 hd
    refine ⟨⟨Nat.le_of_not_lt hlt, t, hencode, fun hcr => ?_⟩, t, hencode, htext⟩
    have hbreak := m.unbroken '\r' (htext ▸ hcr)
    exact Bool.noConfusion hbreak
  · rintro ⟨⟨hle, -⟩, t, ht, htext⟩
    have hline : Line.ofText (Text.trimEnd t) = .ok l := Line.ofText_eq_ok_iff.2 htext
    rw [readLine_of_le hle, ← ht, Utf8.decode_encode]
    simp only [hline]

lemma Segment.Says.isBlank_iff {s : Bytes} (h : Says s l) : l.isBlank = true ↔ IsBlank s := by
  obtain ⟨t, rfl, ht⟩ := h
  rw [isBlank_encode, Line.isBlank, ht, Text.isBlankText_trimEnd, Text.trimEnd_eq_nil_iff]

lemma Segment.Says.unique {s : Bytes} {m : Line} (h : Says s l) (h' : Says s m) : l = m := by
  obtain ⟨t, rfl, ht⟩ := h
  exact Line.ext (ht.trans (says_encode.1 h').symm)

/-! ### All segments -/

section

variable (n : ℕ) (s : Bytes) (ss : List Bytes)

lemma beforeBlank_cons : beforeBlank n (s :: ss) =
    if Good n s ∧ IsBlank s then [] else s :: beforeBlank n ss := by
  by_cases h : Good n s ∧ IsBlank s
  · rw [if_pos h]
    exact List.takeWhile_cons_of_neg (by rw [decide_eq_true_iff]; exact not_not.2 h)
  · rw [if_neg h]
    exact List.takeWhile_cons_of_pos (decide_eq_true h)

lemma upToBlank_cons : upToBlank n (s :: ss) =
    if Good n s ∧ IsBlank s then [s] else s :: upToBlank n ss := by
  rw [upToBlank, beforeBlank_cons]
  by_cases h : Good n s ∧ IsBlank s
  · rw [if_pos h, if_pos h]
    rfl
  · rw [if_neg h, if_neg h]
    rfl

lemma beforeBlank_subset_upToBlank : beforeBlank n ss ⊆ upToBlank n ss := by
  have htake : beforeBlank n ss = ss.take (beforeBlank n ss).length :=
    List.prefix_iff_eq_take.1 (List.takeWhile_prefix _)
  intro s hs
  rw [htake] at hs
  exact (List.take_prefix_take_left (Nat.le_succ _)).subset hs

/-- A good segment before the first good blank one is not blank. -/
lemma not_isBlank_of_mem {n : ℕ} {s : Bytes} {ss : List Bytes} (hs : s ∈ beforeBlank n ss)
    (hgood : Good n s) : ¬ IsBlank s := by
  have h := List.mem_takeWhile_imp hs
  exact fun hblank => of_decide_eq_true h ⟨hgood, hblank⟩

end

lemma map_cons_eq_ok_iff {e : Except Fault (List Line)} :
    e.map ([l] ++ ·) = .ok ls ↔ ∃ ms, e = .ok ms ∧ l :: ms = ls := by
  cases e <;> simp [Except.map]

/-- **Reading lines is reading segments**: everything up to the first good blank segment has to
be good, and the lines are what the segments before it say. -/
lemma toExcept_verdict_eq_ok_iff (hraws : ∀ raw ∈ raws, lf ∉ raw) :
    (verdict limit raws).toExcept = .ok ls ↔
      (∀ s ∈ upToBlank limit.toNat (raws.map dropCr), Good limit.toNat s) ∧
        List.Forall₂ Says (beforeBlank limit.toNat (raws.map dropCr)) ls := by
  induction raws generalizing ls with
  | nil => simp [verdict, upToBlank, beforeBlank, eq_comm]
  | cons raw raws ih =>
    have hmore : ∀ r ∈ raws, lf ∉ r := fun r hr => hraws r (List.mem_cons_of_mem _ hr)
    rw [verdict, List.map_cons, upToBlank_cons, beforeBlank_cons]
    by_cases hgood : Good limit.toNat (dropCr raw)
    · obtain ⟨l, hline⟩ := hgood.exists_line (lf_notMem_dropCr (hraws raw List.mem_cons_self))
      rw [readLine_eq_ok_iff.2 ⟨hgood, hline⟩]
      by_cases hblank : IsBlank (dropCr raw)
      · have hlb := hline.isBlank_iff.2 hblank
        simp [hlb, hgood, hblank, eq_comm]
      · have hlb : l.isBlank = false := by
          rw [← Bool.not_eq_true, hline.isBlank_iff]
          exact hblank
        simp only [hlb, hblank, and_false, if_false, Bool.false_eq_true, toExcept_after,
          map_cons_eq_ok_iff, ih hmore, List.forall_mem_cons, List.forall₂_cons_left_iff]
        constructor
        · rintro ⟨ms, ⟨hgoods, hms⟩, rfl⟩
          exact ⟨⟨hgood, hgoods⟩, l, ms, hline, hms, rfl⟩
        · rintro ⟨⟨-, hgoods⟩, m, ms, hm, hms, rfl⟩
          exact ⟨ms, ⟨hgoods, hms⟩, by rw [hline.unique hm]⟩
    · rcases hl : readLine limit raw with f | l
      · simp [hgood]
      · exact absurd (readLine_eq_ok_iff.1 hl).1 hgood

lemma exists_lines {ss : List Bytes} (h : ∀ s ∈ ss, ∃ l, Says s l) :
    ∃ ls, List.Forall₂ Says ss ls := by
  induction ss with
  | nil => exact ⟨[], .nil⟩
  | cons s ss ih =>
    obtain ⟨l, hl⟩ := h s List.mem_cons_self
    obtain ⟨ls, hls⟩ := ih fun r hr => h r (List.mem_cons_of_mem _ hr)
    exact ⟨l :: ls, .cons hl hls⟩

/-! ### Commands -/

lemma decodeCommand_eq_ok_iff {c : Command} :
    decodeCommand w = .ok c ↔ (atEnd defaultLimit w).toExcept = .ok c.lines := by
  rw [decodeCommand_eq]
  rcases (atEnd defaultLimit w).toExcept with f | ls
  · simp
  · by_cases hls : ls = []
    · simp [hls, eq_comm, c.nonempty]
    · cases c
      simp [hls]

/-- Where everything that counts is good, nothing before the first blank segment is blank. -/
lemma contents_eq (h : ∀ s ∈ upToBlank 8192 (segments w), Good 8192 s) :
    contents w = beforeBlank 8192 (segments w) := by
  rw [contents, List.filter_eq_self]
  intro s hs
  exact decide_eq_true (not_isBlank_of_mem hs (h s (beforeBlank_subset_upToBlank _ _ hs)))

lemma decodeCommand_eq_ok_iff_segments {c : Command} : decodeCommand w = .ok c ↔
    (∀ s ∈ upToBlank 8192 (segments w), Good 8192 s) ∧
      List.Forall₂ Says (beforeBlank 8192 (segments w)) c.lines := by
  have h8192 : defaultLimit.toNat = 8192 := rfl
  rw [decodeCommand_eq_ok_iff, (atEnd_alike defaultLimit w).toExcept_eq_ok_iff,
    toExcept_verdict_eq_ok_iff (lf_notMem_allLines w), h8192]
  rfl

/-- Something is said as soon as one segment is not blank. -/
lemma exists_not_isBlank {c : Command} (h : decodeCommand w = .ok c) :
    ∃ s ∈ beforeBlank 8192 (segments w), ¬ IsBlank s := by
  obtain ⟨hgood, hline⟩ := decodeCommand_eq_ok_iff_segments.1 h
  have hne : beforeBlank 8192 (segments w) ≠ [] := by
    intro hnil
    rw [hnil, List.forall₂_nil_left_iff] at hline
    exact c.nonempty hline
  obtain ⟨s, hs⟩ := List.exists_mem_of_ne_nil _ hne
  exact ⟨s, hs, not_isBlank_of_mem hs (hgood s (beforeBlank_subset_upToBlank _ _ hs))⟩

lemma lf_notMem_segments {s : Bytes} (h : s ∈ segments w) : lf ∉ s := by
  obtain ⟨raw, hraw, rfl⟩ := List.mem_map.1 h
  exact lf_notMem_dropCr (lf_notMem_allLines w raw hraw)

/-- What is well formed says some lines. -/
lemma WellFormed.exists_command (h : WellFormed w) :
    ∃ c : Command, List.Forall₂ Says (contents w) c.lines := by
  obtain ⟨hgood, s, hs, hblank⟩ := h
  have hline : ∀ r ∈ contents w, ∃ l, Says r l := by
    intro r hr
    have hbefore : r ∈ beforeBlank 8192 (segments w) := List.mem_of_mem_filter hr
    have hsegment : r ∈ segments w := (List.takeWhile_prefix _).subset hbefore
    exact (hgood r (beforeBlank_subset_upToBlank _ _ hbefore)).exists_line
      (lf_notMem_segments hsegment)
  obtain ⟨ls, hls⟩ := exists_lines hline
  have hmem : s ∈ contents w := List.mem_filter.2 ⟨hs, decide_eq_true hblank⟩
  have hne : ls ≠ [] := by
    rintro rfl
    rw [List.forall₂_nil_right_iff.1 hls] at hmem
    exact List.not_mem_nil hmem
  exact ⟨⟨ls, hne⟩, hls⟩

/-- **What is read as a command**: bytes of which every segment up to the first good blank one is
good, if one before it is not blank; and the lines are those that are not blank, in order,
without the white space at their ends. All other bytes are refused. -/
theorem decodeCommand_grammar (w : Bytes) :
    (∀ c, decodeCommand w = .ok c ↔
      WellFormed w ∧ List.Forall₂ Says (contents w) c.lines) ∧
    ((∃ f, decodeCommand w = .error f) ↔ ¬ WellFormed w) := by
  have hread : ∀ c, decodeCommand w = .ok c ↔
      WellFormed w ∧ List.Forall₂ Says (contents w) c.lines := by
    intro c
    constructor
    · intro h
      obtain ⟨hgood, hline⟩ := decodeCommand_eq_ok_iff_segments.1 h
      exact ⟨⟨hgood, exists_not_isBlank h⟩, (contents_eq hgood).symm ▸ hline⟩
    · rintro ⟨⟨hgood, -⟩, hline⟩
      exact decodeCommand_eq_ok_iff_segments.2 ⟨hgood, contents_eq hgood ▸ hline⟩
  refine ⟨hread, fun ⟨f, hf⟩ hw => ?_, fun hw => ?_⟩
  · obtain ⟨c, hc⟩ := hw.exists_command
    rw [(hread c).2 ⟨hw, hc⟩] at hf
    simp at hf
  · rcases hd : decodeCommand w with f | c | _
    · exact ⟨f, rfl⟩
    · exact absurd ((hread c).1 hd).1 hw
    · exact absurd hd (decodeCommand_ne_panicked w)

/-- Two carriage returns are white space at the end of a line, one in a line is not; what stands
after a blank line does not matter. -/
example :
    WellFormed [118, 100, 13, 13, 10, 32, 10, 255] ∧ ¬ WellFormed [118, 13, 100, 10] := by
  decide

end LinkCourier.Framing
