import Mathlib.Data.List.Basic
import LinkCourier.Proofs.Framing.Reading

/-!
How a stream is cut into reads makes no difference to the command that is read, nor to the line
at which reading fails. Only a line over the limit can be reported in two ways: it may be seen
to be too long before its line feed has come.
-/

namespace LinkCourier.Framing

variable {limit : UInt64} {w raw : Bytes}

/-- The pieces that bring some bytes. A read that brought nothing would be the end. -/
structure Cut (w : Bytes) (pieces : List Bytes) : Prop where
  flatten_eq : pieces.flatten = w
  nil_notMem : [] ∉ pieces

/-- A fault that says of a line that it is over the limit, complete or pending. -/
def TooLong (limit : UInt64) (raw : Bytes) (f : Fault) : Prop :=
  limit.toNat < (dropCr raw).length ∧
    (f = .lineTooLong (dropCr raw).length limit ∨ f = .pendingTooLong limit)

/-- A fault that a line may be reported with. -/
def Reports (limit : UInt64) (raw : Bytes) (f : Fault) : Prop :=
  readLine limit raw = .error f ∨ TooLong limit raw f

/-- The line with the number `k` is `raw`, and those before it are good and not blank. -/
def Reaches (limit : UInt64) (w : Bytes) (k : ℕ) (raw : Bytes) : Prop :=
  ∃ before more ls, allLines w = before ++ raw :: more ∧ before.length = k ∧ Say limit before ls

lemma length_le_dropCr (raw : Bytes) : raw.length ≤ (dropCr raw).length + 1 := by
  rw [dropCr]
  split
  · rw [List.length_dropLast]
    omega
  · omega

lemma readLine_of_lt (h : limit.toNat < (dropCr raw).length) :
    readLine limit raw = .error (.lineTooLong (dropCr raw).length limit) :=
  if_pos h

lemma readLine_of_le (h : (dropCr raw).length ≤ limit.toNat) : readLine limit raw =
    match Utf8.decode (dropCr raw) with
    | .error f => .error (.notUtf8 f)
    | .ok t => match Line.ofText (Text.trimEnd t) with
      | .error b => .error (.broken b)
      | .ok l => .ok l :=
  if_neg (Nat.not_lt.2 h)

lemma lt_of_readLine {n : ℕ} {m : UInt64} (h : readLine limit raw = .error (.lineTooLong n m)) :
    limit.toNat < (dropCr raw).length ∧ n = (dropCr raw).length := by
  by_cases hlt : limit.toNat < (dropCr raw).length
  · rw [readLine_of_lt hlt] at h
    simp only [Except.error.injEq, Fault.lineTooLong.injEq] at h
    exact ⟨hlt, h.1.symm⟩
  · rw [readLine_of_le (Nat.le_of_not_lt hlt)] at h
    rcases hd : Utf8.decode (dropCr raw) with e | t
    · simp [hd] at h
    · rcases hb : Line.ofText (Text.trimEnd t) with b | l <;> simp [hd, hb] at h

/-- Two verdicts that differ at most in how a line over the limit is reported. -/
inductive Alike (limit : UInt64) : Verdict → Verdict → Prop where
  | refl (v : Verdict) : Alike limit v v
  | tooLong (ls : List Line) (n : ℕ) :
    Alike limit (.failed ls (.pendingTooLong limit)) (.failed ls (.lineTooLong n limit))

/-- A pending line that is too long already stays too long. -/
lemma verdict_tooLong (h : limit.toNat + 1 < (tail w).length) (v : Bytes) :
    ∃ n, verdict limit (allLines (tail w ++ v)) = .failed [] (.lineTooLong n limit) := by
  have hne : tail w ≠ [] := by
    intro h0
    simp [h0] at h
  obtain ⟨u, more, hu⟩ := exists_allLines_append (lf_notMem_tail w) hne v
  have hlen := length_le_dropCr (tail w ++ u)
  rw [List.length_append] at hlen
  rw [hu, verdict, readLine_of_lt (by omega)]
  exact ⟨_, rfl⟩

/-- However much is still to come in however many pieces: what is known early stays known. -/
lemma listen_cut (hlim : limit.toNat + 1 < UInt64.size) (got : Bytes) (pieces : List Bytes)
    (h : [] ∉ pieces) : ∃ v, listen limit got (pieces.map .bytes) = .done v.result ∧
      Alike limit v (verdict limit (allLines (got ++ pieces.flatten))) := by
  have happ := verdict_allLines_append limit got pieces.flatten
  rcases hv : verdict limit (lines got) with ls | ⟨ls, f⟩ | ls
  · refine ⟨.closed ls, listen_closed hv _, ?_⟩
    rw [happ, hv]
    exact .refl _
  · refine ⟨.failed ls f, listen_failed hv _, ?_⟩
    rw [happ, hv]
    exact .refl _
  by_cases hlong : limit.toNat + 1 < (tail got).length
  · obtain ⟨n, hn⟩ := verdict_tooLong hlong pieces.flatten
    refine ⟨.failed ls (.pendingTooLong limit), listen_tooLong hlim hv hlong _, ?_⟩
    rw [happ, hv, hn]
    simpa using Alike.tooLong ls n
  rw [listen_pending hlim hv hlong]
  rcases pieces with _ | ⟨p, pieces⟩
  · exact ⟨_, rfl, by simpa using .refl _⟩
  · have hp : p ≠ [] := fun h0 => h (by simp [h0])
    obtain ⟨v, hlisten, halike⟩ := listen_cut hlim (got ++ p) pieces (fun h0 => h (by simp [h0]))
    refine ⟨v, ?_, ?_⟩
    · simpa [hp] using hlisten
    · simpa [List.append_assoc] using halike

/-- **Reading in pieces**: what is read is the verdict on all lines, but for the report of a
line over the limit. -/
theorem readCommand_cut (hlim : limit.toNat + 1 < UInt64.size) {pieces : List Bytes}
    (h : Cut w pieces) :
    ∃ v, (({ limit } : Codec).readCommand (pieces.map .bytes)).1.answer = .done v.result ∧
      Alike limit v (verdict limit (allLines w)) := by
  rw [readCommand_eq_listen rfl, ← h.flatten_eq]
  exact listen_cut hlim [] pieces h.nil_notMem

/-- A verdict like that of a bad line reports that line. -/
lemma Alike.exists_reports {ls : List Line} {v : Verdict} {f : Fault}
    (hraw : readLine limit raw = .error f) (h : Alike limit v (.failed ls f)) :
    ∃ g, v = .failed ls g ∧ Reports limit raw g ∧
      (g = f ∨ TooLong limit raw g ∧ TooLong limit raw f) := by
  cases h with
  | refl => exact ⟨f, rfl, .inl hraw, .inl rfl⟩
  | tooLong ls n =>
    obtain ⟨hlt, rfl⟩ := lt_of_readLine hraw
    exact ⟨_, rfl, .inr ⟨hlt, .inr rfl⟩, .inr ⟨⟨hlt, .inr rfl⟩, hlt, .inl rfl⟩⟩

/-- **Two cuts of the same bytes** give the same command, that of the lines up to a blank one or
up to the end, or fail at the same line with the same report, unless that line is over the
limit. -/
theorem readCommand_cuts (hlim : limit.toNat + 1 < UInt64.size) {ps qs : List Bytes}
    (hp : Cut w ps) (hq : Cut w qs) :
    (∃ c : Option Command,
      (Closes limit (allLines w) (c.elim [] Command.lines) ∨
        Say limit (allLines w) (c.elim [] Command.lines)) ∧
      (({ limit } : Codec).readCommand (ps.map .bytes)).1.answer = .done (.ok c) ∧
      (({ limit } : Codec).readCommand (qs.map .bytes)).1.answer = .done (.ok c)) ∨
    ∃ k raw f g, Reaches limit w k raw ∧ Reports limit raw f ∧ Reports limit raw g ∧
      (({ limit } : Codec).readCommand (ps.map .bytes)).1.answer =
        .done (.error (.framing f)) ∧
      (({ limit } : Codec).readCommand (qs.map .bytes)).1.answer =
        .done (.error (.framing g)) ∧
      (f = g ∨ TooLong limit raw f ∧ TooLong limit raw g) := by
  obtain ⟨v, hv, hav⟩ := readCommand_cut hlim hp
  obtain ⟨u, hu, hau⟩ := readCommand_cut hlim hq
  rw [hv, hu]
  have hholds := holds_verdict limit (allLines w)
  rcases hw : verdict limit (allLines w) with ls | ⟨ls, f⟩ | ls <;> rw [hw] at hav hau hholds
  · cases hav
    cases hau
    refine .inl ⟨_, .inl ?_, rfl, rfl⟩
    rwa [elim_finish_reverse]
  · obtain ⟨before, raw, more, hlines, hsay, hraw⟩ := hholds
    obtain ⟨g, rfl, hg, hgf⟩ := hav.exists_reports hraw
    obtain ⟨g', rfl, hg', hgf'⟩ := hau.exists_reports hraw
    refine .inr ⟨before.length, raw, g, g', ⟨before, more, ls, hlines, rfl, hsay⟩, hg, hg', rfl,
      rfl, ?_⟩
    rcases hgf with rfl | ⟨htoo, htoo'⟩
    · rcases hgf' with rfl | ⟨htoo, htoo'⟩
      · exact .inl rfl
      · exact .inr ⟨htoo', htoo⟩
    · rcases hgf' with rfl | ⟨htoo'', -⟩
      · exact .inr ⟨htoo, htoo'⟩
      · exact .inr ⟨htoo, htoo''⟩
  · cases hav
    cases hau
    refine .inl ⟨_, .inr ?_, rfl, rfl⟩
    rwa [elim_finish_reverse]

/-- The same line is too long in one read and too long in two. -/
theorem readCommand_cuts_long :
    (2 : UInt64).toNat + 1 < UInt64.size ∧
    ∃ k raw f g, Reaches 2 [97, 98, 99, 100, 10] k raw ∧ Reports 2 raw f ∧ Reports 2 raw g ∧
      (({ limit := 2 } : Codec).readCommand ([[97, 98, 99, 100], [10]].map .bytes)).1.answer =
        .done (.error (.framing f)) ∧
      (({ limit := 2 } : Codec).readCommand ([[97, 98, 99, 100, 10]].map .bytes)).1.answer =
        .done (.error (.framing g)) ∧
      (f = g ∨ TooLong 2 raw f ∧ TooLong 2 raw g) := by
  have hlim : (2 : UInt64).toNat + 1 < UInt64.size := by decide
  have hp : Cut [97, 98, 99, 100, 10] [[97, 98, 99, 100], [10]] := ⟨rfl, by decide⟩
  have hq : Cut [97, 98, 99, 100, 10] [[97, 98, 99, 100, 10]] := ⟨rfl, by decide⟩
  refine ⟨hlim, (readCommand_cuts hlim hp hq).resolve_left ?_⟩
  rintro ⟨c, -, hc, -⟩
  have hnone : verdict 2 (lines []) = .pending [] := rfl
  have hlong : verdict 2 (lines [97, 98, 99, 100]) = .pending [] := rfl
  rw [readCommand_eq_listen rfl, List.map_cons, listen_pending hlim hnone (by decide)] at hc
  simp only [List.cons_ne_nil, if_false, List.nil_append] at hc
  rw [listen_tooLong hlim hlong (by decide)] at hc
  simp at hc

end LinkCourier.Framing
