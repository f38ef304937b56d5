import Mathlib.Data.List.Basic
import LinkCourier.Proofs.Framing.Codec
import LinkCourier.Proofs.Text.Blank
import LinkCourier.Proofs.Text.Utf8

/-!
What is read of a command that has been written: its lines before the first blank one, without
the white space at their ends, unless one of those that are looked at is over the limit.
-/

namespace LinkCourier

/-- The line without the white space at its end. -/
def Line.trimEnd (l : Line) : Line :=
  ⟨Text.trimEnd l.text, fun c hc => l.unbroken c (Text.mem_of_mem_trimEnd hc)⟩

@[simp] lemma Line.text_trimEnd (l : Line) : l.trimEnd.text = Text.trimEnd l.text := rfl

@[simp] lemma Line.isBlank_trimEnd (l : Line) : l.trimEnd.isBlank = l.isBlank :=
  Text.isBlankText_trimEnd l.text

/-- The length of a line on the wire, without its terminator. -/
def Line.byteLength (l : Line) : ℕ := Text.byteLength l.text

namespace Framing

/-- The lines before the first blank one. -/
def body (ls : List Line) : List Line := ls.takeWhile fun l => !l.isBlank

/-- The lines up to the first blank one, and that one too. -/
def reached (ls : List Line) : List Line := ls.take ((body ls).length + 1)

lemma body_cons (l : Line) (ls : List Line) :
    body (l :: ls) = if l.isBlank then [] else l :: body ls := by
  by_cases h : l.isBlank <;> simp [body, h]

lemma reached_cons (l : Line) (ls : List Line) :
    reached (l :: ls) = if l.isBlank then [l] else l :: reached ls := by
  by_cases h : l.isBlank <;> simp [reached, body_cons, h]

lemma body_eq_self_iff {ls : List Line} : body ls = ls ↔ ∀ l ∈ ls, l.isBlank = false := by
  rw [body, List.takeWhile_eq_self_iff]
  simp

lemma reached_of_body_eq {ls : List Line} (h : body ls = ls) : reached ls = ls := by
  rw [reached, h]
  exact List.take_of_length_le (Nat.le_succ _)

/-! ### Written lines -/

/-- A written line before its line feed. -/
def written (l : Line) : Bytes := Text.encode l.text ++ [cr]

/-- The bytes of a line break are in no written line. -/
lemma notMem_encode {b : UInt8} {d : Char} (hd : isBreak d = true) (hb : d.toNat = b.toNat)
    (h128 : b.toNat < 0x80) (l : Line) : b ∉ Text.encode l.text := by
  intro h
  obtain ⟨c, hc, hcb⟩ := Utf8.exists_of_mem_encode h h128
  have hcd : c = d := Char.toNat_inj.1 (hcb.trans hb.symm)
  have hbreak := l.unbroken c hc
  rw [hcd, hd] at hbreak
  exact Bool.noConfusion hbreak

lemma lf_notMem_written (l : Line) : lf ∉ written l := by
  have h := notMem_encode (b := lf) (d := '\n') (by decide) (by decide) (by decide) l
  simpa [written, h] using (by decide : lf ≠ cr)

@[simp] lemma dropCr_written (l : Line) : dropCr (written l) = Text.encode l.text := by
  simp [dropCr, written]

lemma encodeLine_append (l : Line) (w : Bytes) : encodeLine l ++ w = written l ++ lf :: w := by
  simp [encodeLine, written, terminator]

lemma lines_encoded (ls : List Line) : lines (ls.flatMap encodeLine) = ls.map written := by
  induction ls with
  | nil => rfl
  | cons l ls ih =>
    rw [List.flatMap_cons, encodeLine_append, lines_line (lf_notMem_written l), ih, List.map_cons]

lemma tail_encoded (ls : List Line) : tail (ls.flatMap encodeLine) = [] := by
  induction ls with
  | nil => rfl
  | cons l ls ih =>
    rw [List.flatMap_cons, encodeLine_append, tail_line (lf_notMem_written l), ih]

/-- A written line that is not over the limit is read without the white space at its end. -/
lemma readLine_written (limit : UInt64) (l : Line) : readLine limit (written l) =
    if limit.toNat < l.byteLength then .error (.lineTooLong l.byteLength limit)
    else .ok l.trimEnd := by
  have hline : Line.ofText (Text.trimEnd l.text) = .ok l.trimEnd := Line.ofText_eq_ok_iff.2 rfl
  simp only [readLine, dropCr_written, Utf8.decode_encode, hline]
  rfl

variable {limit : UInt64} {ls : List Line}

/-- A line over the limit is reported if no blank line comes before it. -/
lemma verdict_written_of_lt (h : ∃ l ∈ reached ls, limit.toNat < l.byteLength) :
    ∃ ms, ∃ l ∈ reached ls, limit.toNat < l.byteLength ∧
      verdict limit (ls.map written) = .failed ms (.lineTooLong l.byteLength limit) := by
  induction ls with
  | nil => simp [reached] at h
  | cons l ls ih =>
    rw [List.map_cons, verdict, readLine_written, reached_cons] at *
    by_cases hl : limit.toNat < l.byteLength
    · refine ⟨[], l, ?_, hl, by rw [if_pos hl]⟩
      split <;> simp
    · simp only [hl, if_false, Line.isBlank_trimEnd]
      by_cases hb : l.isBlank
      · obtain ⟨m, hm, hlt⟩ := h
        simp only [hb, if_true, List.mem_singleton] at hm
        exact absurd (hm ▸ hlt) hl
      · simp only [hb, Bool.false_eq_true, if_false] at h ⊢
        obtain ⟨m, hm, hlt⟩ := h
        have hm' : m ∈ reached ls := by
          rcases List.mem_cons.1 hm with rfl | hm'
          · exact absurd hlt hl
          · exact hm'
        obtain ⟨ms, n, hn, hnlt, hv⟩ := ih ⟨m, hm', hlt⟩
        exact ⟨l.trimEnd :: ms, n, by simp [hn], hnlt, by simp [hv]⟩

/-- Otherwise the lines before the first blank one are read. -/
lemma verdict_written_of_le (h : ∀ l ∈ reached ls, l.byteLength ≤ limit.toNat) :
    (verdict limit (ls.map written)).toExcept = .ok ((body ls).map Line.trimEnd) := by
  induction ls with
  | nil => rfl
  | cons l ls ih =>
    rw [reached_cons] at h
    have hl : ¬ limit.toNat < l.byteLength := by
      refine Nat.not_lt.2 (h l ?_)
      split <;> simp
    rw [List.map_cons, verdict, readLine_written, if_neg hl, body_cons]
    simp only [Line.isBlank_trimEnd]
    by_cases hb : l.isBlank
    · simp [hb]
    · simp only [hb, Bool.false_eq_true, if_false] at h ⊢
      have ih' := ih fun m hm => h m (by simp [hm])
      rw [toExcept_after, ih']
      simp [Except.map]

/-! ### Commands -/

lemma allLines_encodeCommand (c : Command) : allLines (encodeCommand c) = c.lines.map written := by
  rw [encodeCommand, allLines, tail_encoded, if_pos rfl, List.append_nil, lines_encoded]

lemma decodeCommand_encoded (c : Command) : decodeCommand (encodeCommand c) =
    match (verdict defaultLimit (c.lines.map written)).toExcept with
    | .error f => .error f
    | .ok ls => if h : ls ≠ [] then .ok ⟨ls, h⟩ else .error .noLines := by
  have hend : atEnd defaultLimit (encodeCommand c) =
      verdict defaultLimit (c.lines.map written) := by
    rw [encodeCommand, atEnd_of_tail_eq_nil (tail_encoded c.lines), lines_encoded]
  exact hend ▸ decodeCommand_eq (encodeCommand c)

lemma decodeCommand_of_fits {c : Command}
    (h : ∀ l ∈ reached c.lines, l.byteLength ≤ defaultLimit.toNat) :
    decodeCommand (encodeCommand c) =
      if h : (body c.lines).map Line.trimEnd ≠ [] then .ok ⟨(body c.lines).map Line.trimEnd, h⟩
      else .error .noLines := by
  rw [decodeCommand_encoded, verdict_written_of_le h]

/-- **What is read of a written command**: the report of a line over the limit that is looked
at, or else the lines before the first blank one without the white space at their ends. -/
theorem decodeCommand_encodeCommand (c : Command) :
    ((∃ l ∈ reached c.lines, 8192 < l.byteLength) →
      ∃ l ∈ reached c.lines, 8192 < l.byteLength ∧
        decodeCommand (encodeCommand c) = .error (.lineTooLong l.byteLength 8192)) ∧
    ((∀ l ∈ reached c.lines, l.byteLength ≤ 8192) →
      (∀ h : body c.lines ≠ [], decodeCommand (encodeCommand c) =
        .ok ⟨(body c.lines).map Line.trimEnd, by simpa using h⟩) ∧
      (body c.lines = [] → decodeCommand (encodeCommand c) = .error .noLines ∧
        Fault.noLines.message = "Empty command sequence")) ∧
    (decodeCommand (encodeCommand c) = .ok c ↔
      ∀ l ∈ c.lines, l.isBlank = false ∧ Text.trimEnd l.text = l.text ∧ l.byteLength ≤ 8192) := by
  have hlimit : defaultLimit.toNat = 8192 := rfl
  refine ⟨fun h => ?_, fun h => ⟨fun hne => ?_, fun hnil => ⟨?_, rfl⟩⟩, fun h => ?_, fun h => ?_⟩
  · obtain ⟨ms, l, hl, hlt, hv⟩ := verdict_written_of_lt (hlimit ▸ h)
    exact ⟨l, hl, hlt, by rw [decodeCommand_encoded, hv]; rfl⟩
  · rw [decodeCommand_of_fits h, dif_pos]
  · rw [decodeCommand_of_fits h, dif_neg (by simp [hnil])]
  · -- No line that is looked at is too long, since something has been read.
    have hfits : ∀ l ∈ reached c.lines, l.byteLength ≤ defaultLimit.toNat := by
      by_contra hlong
      push Not at hlong
      obtain ⟨ms, l, -, -, hv⟩ := verdict_written_of_lt hlong
      rw [decodeCommand_encoded, hv] at h
      simp at h
    rw [decodeCommand_of_fits hfits] at h
    split_ifs at h with hne
    have hlines : (body c.lines).map Line.trimEnd = c.lines :=
      congrArg Command.lines (Result.ok.inj h)
    have hbody : body c.lines = c.lines := by
      have hlen : (body c.lines).length = c.lines.length := by
        simpa using congrArg List.length hlines
      exact List.IsPrefix.eq_of_length (by exact List.takeWhile_prefix _) hlen
    rw [hbody] at hlines
    rw [reached_of_body_eq hbody] at hfits
    intro l hl
    have htrim : l.trimEnd = l := List.map_inj_left.1 (hlines.trans (List.map_id _).symm) l hl
    exact ⟨body_eq_self_iff.1 hbody l hl, congrArg Line.text htrim, hfits l hl⟩
  · have hbody : body c.lines = c.lines := body_eq_self_iff.2 fun l hl => (h l hl).1
    have hfits : ∀ l ∈ reached c.lines, l.byteLength ≤ defaultLimit.toNat := by
      rw [reached_of_body_eq hbody]
      exact fun l hl => (h l hl).2.2
    have hlines : c.lines.map Line.trimEnd = c.lines := by
      refine (List.map_congr_left fun l hl => ?_).trans (List.map_id _)
      exact Line.ext (h l hl).2.1
    have hne : (body c.lines).map Line.trimEnd ≠ [] := by
      rw [hbody, hlines]
      exact c.nonempty
    rw [decodeCommand_of_fits hfits, dif_pos hne]
    congr
    rw [hbody, hlines]

/-- A line over the limit, one with a blank at its end before a blank one, and no line at all. -/
theorem decodeCommand_encodeCommand_cases :
    let long : Command :=
      ⟨[⟨List.replicate 8193 'x', fun c hc => List.eq_of_mem_replicate hc ▸ rfl⟩], by decide⟩
    let padded : Command := ⟨[⟨['l', 's', 'é', ' '], Line.unbroken_of_any rfl⟩,
      ⟨['\t'], Line.unbroken_of_any rfl⟩, ⟨['d', 'o'], Line.unbroken_of_any rfl⟩], by decide⟩
    let blank : Command := ⟨[⟨['\u3000'], Line.unbroken_of_any rfl⟩], by decide⟩
    ((∃ l ∈ reached long.lines, 8192 < l.byteLength) ∧
      ∃ l ∈ reached long.lines, 8192 < l.byteLength ∧
        decodeCommand (encodeCommand long) = .error (.lineTooLong l.byteLength 8192)) ∧
    ((∀ l ∈ reached padded.lines, l.byteLength ≤ 8192) ∧ body padded.lines ≠ [] ∧
      decodeCommand (encodeCommand padded) =
        .ok ⟨[⟨['l', 's', 'é'], Line.unbroken_of_any rfl⟩], by decide⟩) ∧
    ((∀ l ∈ reached blank.lines, l.byteLength ≤ 8192) ∧ body blank.lines = [] ∧
      decodeCommand (encodeCommand blank) = .error .noLines) := by
  intro long padded blank
  have hlong : ∃ l ∈ reached long.lines, 8192 < l.byteLength := by
    refine ⟨_, List.mem_singleton_self _, ?_⟩
    decide +kernel
  have hpadded : ∀ l ∈ reached padded.lines, l.byteLength ≤ 8192 := by decide
  have hbody : body padded.lines ≠ [] := by decide
  have hblank : ∀ l ∈ reached blank.lines, l.byteLength ≤ 8192 := by decide
  have hnone : body blank.lines = [] := by decide
  exact ⟨⟨hlong, (decodeCommand_encodeCommand long).1 hlong⟩,
    ⟨hpadded, hbody, ((decodeCommand_encodeCommand padded).2.1 hpadded).1 hbody⟩,
    hblank, hnone, (((decodeCommand_encodeCommand blank).2.1 hblank).2 hnone).1⟩

end Framing

end LinkCourier
