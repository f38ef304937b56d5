import Mathlib.Data.List.Basic
import LinkCourier.Proofs.Framing.Cuts

/-!
A bad line damages only itself. A codec that goes on after faults answers for every complete line
what it answers for this line alone. A pending line that is too long is kept; when its line feed
comes it is dropped as one line, and what follows it is read from its beginning.
-/

namespace LinkCourier.Framing

/-- The answer of a call that takes no line: more is needed, the pending line is too long, or
nothing comes back. -/
def Halts : Result Fault (Option Line) → Bool
  | .ok none => true
  | .error (.pendingTooLong _) => true
  | .panicked => true
  | _ => false

/-- What calls on a codec come to: the answers of those that took a line, and the last one, which
took none. -/
structure Sweep where
  answers : List (Result Fault (Option Line))
  last : Outcome

variable {limit : UInt64} {raw w buf : Bytes} {c : Codec}

/-- The answer for a complete line says nothing about a pending one. -/
lemma halts_answerFor (limit : UInt64) (raw : Bytes) : Halts (answerFor limit raw) = false := by
  have hread (f : Fault) (h : readLine limit raw = .error f) : Halts (.error f) = false := by
    unfold readLine at h
    dsimp only at h
    split at h
    · cases h
      rfl
    split at h
    · cases h
      rfl
    · split at h <;> cases h
      rfl
  unfold answerFor
  split
  · rename_i f h
    exact hread f h
  · rfl

namespace Codec

/-- A call either halts or takes the first line of the buffer. -/
lemma decode_shorter_of_not_halts (h : ¬ Halts (c.decode buf).answer) :
    (c.decode buf).buffer.length < buf.length := by
  unfold decode at h ⊢
  split
  · rename_i i hi
    have hlt := (List.findIdx?_eq_some_iff_getElem.1 hi).1
    simp only [List.length_drop] at hlt ⊢
    omega
  · rename_i hi
    rw [hi] at h
    simp only at h
    split at h
    · split at h <;> exact absurd rfl h
    · exact absurd rfl h

/-- Takes lines off a buffer, going on after faults, until there is none to take. -/
def sweep (c : Codec) (buf : Bytes) : Sweep :=
  if _h : Halts (c.decode buf).answer then ⟨[], c.decode buf⟩
  else
    let s := (c.decode buf).codec.sweep (c.decode buf).buffer
    ⟨(c.decode buf).answer :: s.answers, s.last⟩
termination_by buf.length
decreasing_by exact decode_shorter_of_not_halts _h

/-- Sweeps a buffer, and again each time that more bytes have been put at its end. -/
def sweepAll (c : Codec) (buf : Bytes) : List Bytes → Sweep
  | [] => c.sweep buf
  | w :: ws =>
    let s := c.sweep buf
    let t := s.last.codec.sweepAll (s.last.buffer ++ w) ws
    ⟨s.answers ++ t.answers, t.last⟩

end Codec

/-- What a codec that has not been used answers for a line and its line feed alone. -/
def alone (limit : UInt64) (raw : Bytes) : Result Fault (Option Line) :=
  (({ limit } : Codec).decode (raw ++ [lf])).answer

lemma alone_eq (h : lf ∉ raw) : alone limit raw = answerFor limit raw := by
  rw [alone, Codec.decode_line (Codec.scanned_of_resume rfl _) h]

namespace Codec

/-! ### One sweep -/

lemma sweep_line (h : c.Scanned (raw ++ lf :: w)) (hraw : lf ∉ raw) :
    c.sweep (raw ++ lf :: w) =
      ⟨alone c.limit raw :: (c.rewind.sweep w).answers, (c.rewind.sweep w).last⟩ := by
  rw [sweep, decode_line h hraw, dif_neg (by rw [halts_answerFor]; simp), alone_eq hraw]

/-- Without a line feed a call halts. It leaves the buffer as it is, and has looked at no line feed
of it. -/
lemma decode_rest (h : c.Scanned buf) (hbuf : lf ∉ buf) :
    Halts (c.decode buf).answer = true ∧ (c.decode buf).buffer = buf ∧
      (c.decode buf).codec.limit = c.limit ∧ (c.decode buf).codec.Scanned buf := by
  by_cases hlim : c.limit.toNat + 1 < UInt64.size
  · rw [decode_pending hlim hbuf]
    split
    · exact ⟨rfl, rfl, rfl, h⟩
    · exact ⟨rfl, rfl, rfl, Nat.le_refl _, by rwa [List.take_length]⟩
  · rw [decode_largest hlim hbuf]
    exact ⟨rfl, rfl, rfl, h⟩

lemma sweep_pending (h : c.Scanned buf) (hbuf : lf ∉ buf) : c.sweep buf = ⟨[], c.decode buf⟩ := by
  rw [sweep, dif_pos (decode_rest h hbuf).1]

/-- **One sweep** answers for each line what would be answered for it alone, and ends with a call
on the bytes after the last line feed. -/
lemma sweep_spec (h : c.Scanned buf) :
    c.sweep buf = ⟨(lines buf).map (alone c.limit), (c.past buf).decode (tail buf)⟩ := by
  induction buf using byLines generalizing c with
  | rest w hw =>
    rw [sweep_pending h hw, past, lines_of_notMem hw, tail_of_notMem hw, if_pos rfl, List.map_nil]
  | line raw w hraw ih =>
    rw [sweep_line h hraw, ih (scanned_rewind c w), past_line hraw, lines_line hraw,
      tail_line hraw, List.map_cons]
    rfl

/-! ### More bytes -/

/-- What has been made of all bytes so far, in whatever pieces they have come. -/
structure Swept (limit : UInt64) (all : Bytes) (s : Sweep) : Prop where
  answers_eq : s.answers = (lines all).map (alone limit)
  last_eq : ∃ c : Codec, c.limit = limit ∧ c.Scanned (tail all) ∧ s.last = c.decode (tail all)

lemma swept_sweep (h : c.Scanned buf) : Swept c.limit buf (c.sweep buf) where
  answers_eq := by rw [sweep_spec h]
  last_eq := ⟨c.past buf, limit_past c buf, h.past, by rw [sweep_spec h]⟩

/-- The last call leaves its buffer as it is. -/
lemma Swept.buffer_eq {all : Bytes} {s : Sweep} (h : Swept limit all s) :
    s.last.buffer = tail all := by
  obtain ⟨c, -, hscanned, hlast⟩ := h.last_eq
  rw [hlast]
  exact (decode_rest hscanned (lf_notMem_tail all)).2.1

lemma Swept.answer_eq (hlim : limit.toNat + 1 < UInt64.size) {all : Bytes} {s : Sweep}
    (h : Swept limit all s) : s.last.answer =
      if limit.toNat + 1 < (tail all).length then .error (.pendingTooLong limit) else .ok none := by
  obtain ⟨c, rfl, -, hlast⟩ := h.last_eq
  rw [hlast, decode_pending hlim (lf_notMem_tail all)]
  split <;> rfl

lemma Swept.codec {all : Bytes} {s : Sweep} (h : Swept limit all s) :
    s.last.codec.limit = limit ∧ s.last.codec.Scanned s.last.buffer := by
  obtain ⟨c, hlimit, hscanned, hlast⟩ := h.last_eq
  obtain ⟨-, hbuffer, hcodec, hrest⟩ := decode_rest hscanned (lf_notMem_tail all)
  rw [hlast, hbuffer, hcodec]
  exact ⟨hlimit, hrest⟩

lemma swept_sweepAll (h : c.Scanned buf) (ws : List Bytes) :
    Swept c.limit (buf ++ ws.flatten) (c.sweepAll buf ws) := by
  induction ws generalizing c buf with
  | nil =>
    rw [List.flatten_nil, List.append_nil]
    exact swept_sweep h
  | cons w ws ih =>
    have hfirst := swept_sweep h
    obtain ⟨hlimit, hscanned⟩ := hfirst.codec
    have hrest := ih (hscanned.append w)
    rw [hlimit, hfirst.buffer_eq, List.append_assoc] at hrest
    obtain ⟨d, hd, hdscanned, hdlast⟩ := hrest.last_eq
    rw [← tail_append] at hdscanned hdlast
    rw [List.flatten_cons]
    refine ⟨?_, d, hd, hdscanned, ?_⟩
    · rw [lines_append, List.map_append, ← hrest.answers_eq, ← hfirst.answers_eq, sweepAll,
        hfirst.buffer_eq]
    · rw [← hdlast, sweepAll, hfirst.buffer_eq]

end Codec

/-- A line that is too long while it is pending is too long when it is complete. -/
lemma readLine_of_pending (h : limit.toNat + 1 < raw.length) :
    readLine limit raw = .error (.lineTooLong (dropCr raw).length limit) := by
  have hlen : raw.length ≤ (dropCr raw).length + 1 := length_le_dropCr raw
  exact readLine_of_lt (by omega)

/-- **A bad line damages only itself.** However the bytes have come, there is one answer for each
line feed among them, the one that its line has alone, and what is left are the bytes after the
last line feed. If these are a line that is too long already, the call that finds its line feed
drops it as one line, and leaves a codec that has not been used with what follows it. -/
theorem sweepAll_alone (hlim : limit.toNat + 1 < UInt64.size) (buf : Bytes) (ws : List Bytes) :
    let s := ({ limit } : Codec).sweepAll buf ws
    let all := buf ++ ws.flatten
    (s.answers = (lines all).map (alone limit) ∧ s.answers.length = all.count lf) ∧
      (s.last.buffer = tail all ∧ s.last.answer =
        if limit.toNat + 1 < (tail all).length then .error (.pendingTooLong limit) else .ok none) ∧
      ∀ raw more, lf ∉ raw → limit.toNat + 1 < (tail all).length →
        s.last.codec.decode (s.last.buffer ++ (raw ++ lf :: more)) =
          ⟨.error (.lineTooLong (dropCr (tail all ++ raw)).length limit), { limit }, more⟩ := by
  intro s all
  have hstart : ({ limit } : Codec).Scanned buf := Codec.scanned_of_resume rfl buf
  have h : Codec.Swept limit all s := Codec.swept_sweepAll hstart ws
  refine ⟨⟨h.answers_eq, ?_⟩, ⟨h.buffer_eq, h.answer_eq hlim⟩, fun raw more hraw hlong => ?_⟩
  · rw [h.answers_eq, List.length_map, length_lines]
  · obtain ⟨hlimit, hscanned⟩ := h.codec
    have hnot : lf ∉ tail all ++ raw := by simp [lf_notMem_tail, hraw]
    have hlen : limit.toNat + 1 < (tail all ++ raw).length := by
      rw [List.length_append]
      omega
    have hmore := hscanned.append (raw ++ lf :: more)
    rw [h.buffer_eq, ← List.append_assoc] at hmore ⊢
    rw [Codec.decode_line hmore hnot, hlimit, answerFor, readLine_of_pending hlen, Codec.rewind,
      hlimit]

/-- Bad lines of each kind next to each other; the last one is too long before it is complete, and
its line feed comes with a later piece. -/
theorem sweepAll_alone_adjacent :
    let buf : Bytes := [118, 100, 10, 97, 98, 99, 100, 101, 10, 255, 10, 97, 13, 98, 10, 32, 13, 10,
      97, 98, 99, 100, 101, 102]
    let ws : List Bytes := [[103], [10, 108, 115, 10, 33]]
    let s := ({ limit := 4 } : Codec).sweepAll buf ws
    (4 : UInt64).toNat + 1 < UInt64.size ∧
      s.answers = [.ok (some ⟨"vd".toList, Line.unbroken_of_any rfl⟩),
        .error (.lineTooLong 5 4), .error (.notUtf8 (.invalid 1 0)), .error (.broken ⟨1⟩),
        .ok (some ⟨[], Line.unbroken_of_any rfl⟩), .error (.lineTooLong 7 4),
        .ok (some ⟨"ls".toList, Line.unbroken_of_any rfl⟩)] ∧
      s.last.buffer = [33] := by
  intro buf ws s
  have hlim : (4 : UInt64).toNat + 1 < UInt64.size := by decide
  obtain ⟨⟨hanswers, -⟩, ⟨hbuffer, -⟩, -⟩ := sweepAll_alone hlim buf ws
  refine ⟨hlim, hanswers.trans ?_, hbuffer.trans ?_⟩
  · decide +kernel
  · decide +kernel

end LinkCourier.Framing
