import Mathlib.Data.List.Basic
import LinkCourier.Proofs.Framing.Cuts

/-!
All bytes at once and the same bytes read from a stream: both judge the same lines, and differ
at most in how a line over the limit is reported. So they give the same command, or both find
no line, or both refuse one.
-/

namespace LinkCourier.Framing

variable {limit : UInt64} {w : Bytes}

/-! ### Faults of lines -/

/-- A line can be refused with this fault; the others are about a whole sequence. -/
def Fault.OfLine : Fault → Prop
  | .noLines => False
  | .stated _ => False
  | _ => True

lemma ofLine_of_readLine {raw : Bytes} {f : Fault} (h : readLine limit raw = .error f) :
    f.OfLine := by
  by_cases hlt : limit.toNat < (dropCr raw).length
  · rw [readLine_of_lt hlt] at h
    cases h
    trivial
  · rw [readLine_of_le (Nat.le_of_not_lt hlt)] at h
    rcases hd : Utf8.decode (dropCr raw) with e | t
    · simp only [hd, Except.error.injEq] at h
      exact h ▸ trivial
    · rcases hb : Line.ofText (Text.trimEnd t) with b | l
      · simp only [hd, hb, Except.error.injEq] at h
        exact h ▸ trivial
      · simp [hd, hb] at h

lemma ofLine_of_verdict {raws : List Bytes} {ls : List Line} {f : Fault}
    (h : verdict limit raws = .failed ls f) : f.OfLine := by
  obtain ⟨before, raw, more, -, -, hraw⟩ := verdict_eq_iff.1 h
  exact ofLine_of_readLine hraw

lemma isPrefix_append {p : Text} {s : String} (h : p <+: s.toList) (t : String) :
    p <+: (s ++ t).toList := by
  rw [String.toList_append]
  exact h.trans (List.prefix_append _ _)

lemma Fault.OfLine.message_begins {f : Fault} (h : f.OfLine) :
    "Line".toList <+: f.message.toList ∨ "Invalid".toList <+: f.message.toList := by
  cases f with
  | lineTooLong n m =>
    have hp : "Line".toList <+: "Line too long: ".toList := by decide
    exact .inl (isPrefix_append (isPrefix_append (isPrefix_append (isPrefix_append hp _) _) _) _)
  | pendingTooLong m =>
    have hp : "Line".toList <+: "Line too long: more than ".toList := by decide
    exact .inl (isPrefix_append (isPrefix_append hp _) _)
  | notUtf8 e =>
    have hp : "Line".toList <+: "Line is not valid UTF-8: ".toList := by decide
    exact .inl (isPrefix_append hp _)
  | broken b =>
    have hp : "Invalid".toList <+: "Invalid command: ".toList := by decide
    exact .inr (isPrefix_append hp _)
  | noLines => exact h.elim
  | stated r => exact h.elim

/-- No line is refused in the words for a sequence without lines. -/
lemma Fault.OfLine.message_ne {f : Fault} (h : f.OfLine) :
    f.message ≠ "Empty command sequence" := by
  intro hmsg
  have hbegins := h.message_begins
  rw [hmsg] at hbegins
  exact absurd hbegins (by decide)

/-! ### All bytes at once -/

/-- A rest that is too long to be pending is too long as a line. -/
lemma atEnd_alike (limit : UInt64) (w : Bytes) :
    Alike limit (atEnd limit w) (verdict limit (allLines w)) := by
  rw [atEnd, allLines, verdict_append]
  by_cases hlong : limit.toNat + 1 < (tail w).length
  · obtain ⟨n, hn⟩ := verdict_tooLong hlong []
    rw [List.append_nil, allLines_of_notMem (lf_notMem_tail w)] at hn
    rw [if_pos hlong, hn]
    rcases verdict limit (lines w) with ls | ⟨ls, f⟩ | ls
    · exact .refl _
    · exact .refl _
    · simpa using Alike.tooLong ls n
  · rw [if_neg hlong]
    exact .refl _

lemma Alike.toExcept_eq_ok_iff {u v : Verdict} (h : Alike limit u v) {ls : List Line} :
    u.toExcept = .ok ls ↔ v.toExcept = .ok ls := by
  cases h <;> simp

lemma Alike.ofLine {raws : List Bytes} {u : Verdict} (h : Alike limit u (verdict limit raws))
    {f : Fault} (hf : u.toExcept = .error f) : f.OfLine := by
  rcases hu : u with ls | ⟨ls, g⟩ | ls <;> rw [hu] at hf h
  · simp at hf
  · simp only [toExcept_failed, Except.error.injEq] at hf
    subst hf
    generalize hv : verdict limit raws = v at h
    cases h with
    | refl => exact ofLine_of_verdict hv
    | tooLong => trivial
  · simp at hf

/-! ### All bytes and a stream of them -/

/-- What two ways of reading come to, where they agree. -/
inductive Agree : Answer (Option Command) → Result Fault Command → Prop where
  | command (c : Command) : Agree (.done (.ok (some c))) (.ok c)
  | nothing : Agree (.done (.ok none)) (.error .noLines)
  | refused (f g : Fault) (h : g.OfLine) : Agree (.done (.error (.framing f))) (.error g)

lemma agree {reads : List Bytes} (h : Cut w reads) :
    Agree (({} : Codec).readCommand (reads.map .bytes)).1.answer (decodeCommand w) := by
  obtain ⟨v, hv, hlike⟩ := readCommand_cut defaultLimit_lt h
  have hlike' := atEnd_alike defaultLimit w
  have hanswer : (({} : Codec).readCommand (reads.map .bytes)).1.answer = .done v.result := hv
  rw [hanswer, decodeCommand_eq, Verdict.result]
  rcases hend : (atEnd defaultLimit w).toExcept with g | ls
  · rcases hve : v.toExcept with f | ls
    · exact .refused f g (hlike'.ofLine hend)
    · -- One of them cannot read what the other refuses.
      rw [hlike.toExcept_eq_ok_iff, ← hlike'.toExcept_eq_ok_iff, hend] at hve
      simp at hve
  · have hve : v.toExcept = .ok ls := by
      rwa [hlike.toExcept_eq_ok_iff, ← hlike'.toExcept_eq_ok_iff]
    simp only [hve, finish_reverse]
    by_cases hls : ls = []
    · subst hls
      exact .nothing
    · simp only [ne_eq, hls, not_false_eq_true, dif_pos]
      exact .command _

/-- **All bytes at once and in any pieces**: the same command is read, or there is no line, or a
line is refused, in the one way exactly where it is so in the other. -/
theorem readCommand_iff_decodeCommand {reads : List Bytes} (h : Cut w reads) :
    let answer := (({} : Codec).readCommand (reads.map .bytes)).1.answer
    (∀ c, answer = .done (.ok (some c)) ↔ decodeCommand w = .ok c) ∧
    (answer = .done (.ok none) ↔
      ∃ f, decodeCommand w = .error f ∧ f.message = "Empty command sequence") ∧
    ((∃ f, answer = .done (.error (.framing f))) ↔
      ∃ f, decodeCommand w = .error f ∧ f.message ≠ "Empty command sequence") := by
  intro answer
  have hagree : Agree answer (decodeCommand w) := agree h
  generalize answer = a at hagree
  generalize decodeCommand w = d at hagree
  cases hagree with
  | command c => simp
  | nothing =>
    have hmsg : Fault.noLines.message = "Empty command sequence" := rfl
    simp [hmsg]
  | refused f g hg => simp [hg.message_ne]

/-- A line whose terminator is cut in two, and a rest that is no text. -/
theorem readCommand_iff_decodeCommand_split :
    let w : Bytes := [118, 100, 13, 10, 255]
    let reads : List Bytes := [[118], [100, 13], [10, 255]]
    Cut w reads ∧ decodeCommand w = .error (.notUtf8 (.invalid 1 0)) ∧
      ∃ f, (({} : Codec).readCommand (reads.map .bytes)).1.answer =
        .done (.error (.framing f)) := by
  intro w reads
  have hcut : Cut w reads := ⟨rfl, by decide⟩
  have hend : (atEnd defaultLimit w).toExcept = .error (.notUtf8 (.invalid 1 0)) := rfl
  have hdecode : decodeCommand w = .error (.notUtf8 (.invalid 1 0)) := by
    rw [decodeCommand_eq, hend]
  have hline : (Fault.notUtf8 (.invalid 1 0)).OfLine := trivial
  exact ⟨hcut, hdecode,
    (readCommand_iff_decodeCommand hcut).2.2.2 ⟨_, hdecode, hline.message_ne⟩⟩

end LinkCourier.Framing
