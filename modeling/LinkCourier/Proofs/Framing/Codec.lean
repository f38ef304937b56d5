import Mathlib.Data.List.Basic
import LinkCourier.Proofs.Framing.Verdict

/-!
The codec on the lines of its buffer. As long as no line feed stands where it has looked
already, what it reads off a buffer is the verdict on the lines of the buffer, however much of
it has been looked at before.
-/

namespace LinkCourier.Framing

variable {limit : UInt64} {raw w : Bytes}

/-- A limit has a number above it in its width, or it is the largest one. -/
lemma below_or_largest (limit : UInt64) :
    limit.toNat + 1 < UInt64.size ∨ limit.toNat + 1 = UInt64.size := by
  have := limit.toNat_lt_size
  omega

/-- What a buffer comes to if nothing more comes. -/
def atEnd (limit : UInt64) (buf : Bytes) : Verdict :=
  (verdict limit (lines buf)).andThen
    (if limit.toNat + 1 < (tail buf).length then .failed [] (.pendingTooLong limit)
    else verdict limit (if tail buf = [] then [] else [tail buf]))

lemma atEnd_line (h : lf ∉ raw) : atEnd limit (raw ++ lf :: w) =
    match readLine limit raw with
    | .error f => .failed [] f
    | .ok l => if l.isBlank then .closed [] else (atEnd limit w).after [l] := by
  rw [atEnd, lines_line h, tail_line h, verdict]
  rcases readLine limit raw with f | l
  · rfl
  · by_cases hl : l.isBlank
    · simp [hl]
    · simp only [hl, Bool.false_eq_true, if_false, Verdict.andThen_after, atEnd]

lemma atEnd_of_tail_eq_nil (h : tail w = []) :
    atEnd limit w = verdict limit (lines w) := by
  rw [atEnd, h]
  rcases verdict limit (lines w) with ls | ⟨ls, f⟩ | ls <;> simp [verdict]

namespace Codec

/-- The part of the buffer that has been looked at is a part of it, and has no line feed. -/
structure Scanned (c : Codec) (buf : Bytes) : Prop where
  le : c.resume ≤ buf.length
  lf_notMem : lf ∉ buf.take c.resume

/-- The codec when it starts to look from the beginning. -/
def rewind (c : Codec) : Codec := { c with resume := 0 }

variable {c : Codec} {buf : Bytes}

lemma scanned_of_resume (h : c.resume = 0) (buf : Bytes) : c.Scanned buf :=
  ⟨by omega, by simp [h]⟩

lemma scanned_rewind (c : Codec) (buf : Bytes) : c.rewind.Scanned buf := scanned_of_resume rfl buf

lemma Scanned.append (h : c.Scanned buf) (w : Bytes) : c.Scanned (buf ++ w) := by
  refine ⟨?_, ?_⟩
  · rw [List.length_append]
    exact Nat.le_add_right_of_le h.le
  · rw [List.take_append_of_le_length h.le]
    exact h.lf_notMem

lemma Scanned.le_line (h : c.Scanned (raw ++ lf :: w)) : c.resume ≤ raw.length := by
  by_contra hlt
  refine h.lf_notMem (List.mem_take_iff_getElem.2 ⟨raw.length, ?_, ?_⟩)
  · simp only [List.length_append, List.length_cons]
    omega
  · simp

lemma findIdx?_lf (h : lf ∉ raw) (w : Bytes) :
    (raw ++ lf :: w).findIdx? (· == lf) = some raw.length := by
  induction raw with
  | nil => simp [List.findIdx?_cons]
  | cons b raw ih =>
    have hb : (b == lf) = false := by
      simp only [beq_eq_false_iff_ne, ne_eq]
      rintro rfl
      exact h (by simp)
    simp [List.findIdx?_cons, hb, ih (fun hm => h (by simp [hm]))]

lemma findIdx?_eq_none (h : lf ∉ buf) : buf.findIdx? (· == lf) = none := by
  rw [List.findIdx?_eq_none_iff]
  intro b hb
  simp only [beq_eq_false_iff_ne, ne_eq]
  rintro rfl
  exact h hb

/-- A complete line is read, and the codec looks at the rest from its beginning. -/
lemma decode_line (h : c.Scanned (raw ++ lf :: w)) (hraw : lf ∉ raw) :
    c.decode (raw ++ lf :: w) = ⟨answerFor c.limit raw, c.rewind, w⟩ := by
  have hle := h.le_line
  have hfind : ((raw ++ lf :: w).drop c.resume).findIdx? (· == lf) =
      some (raw.length - c.resume) := by
    rw [List.drop_append_of_le_length hle,
      findIdx?_lf (fun hm => hraw (List.mem_of_mem_drop hm)), List.length_drop]
  have hsum : c.resume + (raw.length - c.resume) = raw.length := by omega
  simp only [decode, hfind, hsum]
  simp [rewind]

/-- A pending line is waited for, unless it is too long already. -/
lemma decode_pending (hlim : c.limit.toNat + 1 < UInt64.size) (h : lf ∉ buf) : c.decode buf =
    if c.limit.toNat + 1 < buf.length then ⟨.error (.pendingTooLong c.limit), c, buf⟩
    else ⟨.ok none, { c with resume := buf.length }, buf⟩ := by
  have hfind : (buf.drop c.resume).findIdx? (· == lf) = none :=
    findIdx?_eq_none fun hm => h (List.mem_of_mem_drop hm)
  rw [decode, hfind]
  exact if_pos hlim

/-- With the largest limit there is no waiting for a line feed. -/
lemma decode_largest (hmax : ¬ c.limit.toNat + 1 < UInt64.size) (h : lf ∉ buf) :
    c.decode buf = ⟨.panicked, c, buf⟩ := by
  have hfind : (buf.drop c.resume).findIdx? (· == lf) = none :=
    findIdx?_eq_none fun hm => h (List.mem_of_mem_drop hm)
  rw [decode, hfind]
  exact if_neg hmax

lemma decode_nil (hlim : c.limit.toNat + 1 < UInt64.size) :
    c.decode [] = ⟨.ok none, c.rewind, []⟩ := by
  rw [decode_pending hlim List.not_mem_nil]
  simp [rewind]

lemma decodeEof_line (h : c.Scanned (raw ++ lf :: w)) (hraw : lf ∉ raw) :
    c.decodeEof (raw ++ lf :: w) = ⟨answerFor c.limit raw, c.rewind, w⟩ := by
  rw [decodeEof, decode_line h hraw, answerFor]
  rcases readLine c.limit raw with f | l <;> rfl

lemma decodeEof_pending (hlim : c.limit.toNat + 1 < UInt64.size) (h : lf ∉ buf) :
    c.decodeEof buf =
      if c.limit.toNat + 1 < buf.length then ⟨.error (.pendingTooLong c.limit), c, buf⟩
      else if buf = [] then ⟨.ok none, c.rewind, []⟩
      else ⟨answerFor c.limit buf, c.rewind, []⟩ := by
  rw [decodeEof, decode_pending hlim h]
  by_cases hlong : c.limit.toNat + 1 < buf.length
  · simp only [hlong, if_true]
  · by_cases hbuf : buf = []
    · simp [hbuf, rewind]
    · simp [hlong, hbuf, rewind]

/-! ### Draining a buffer -/

lemma drain_eq (c : Codec) (buf : Bytes) (read : List Line) : c.drain buf read =
    match c.decode buf with
    | ⟨.error f, c', _⟩ => .failed f c'
    | ⟨.panicked, c', _⟩ => .panicked c'
    | ⟨.ok none, c', rest⟩ => .pending read c' rest
    | ⟨.ok (some l), c', rest⟩ =>
      if l.isBlank then .closed read c' else c'.drain rest (l :: read) := by
  rw [drain]
  split <;> simp [*]

/-- The codec after all complete lines of a buffer. -/
def past (c : Codec) (buf : Bytes) : Codec := if lines buf = [] then c else c.rewind

lemma past_line (h : lf ∉ raw) : c.past (raw ++ lf :: w) = c.rewind.past w := by
  simp [past, lines_line h, rewind]

/-- The codec after the complete lines of its buffer has looked at no line feed of the rest. -/
lemma Scanned.past (h : c.Scanned buf) : (c.past buf).Scanned (tail buf) := by
  unfold Codec.past
  split
  · rename_i hlines
    rwa [tail_of_lines_eq_nil hlines]
  · exact scanned_rewind c (tail buf)

lemma limit_past (c : Codec) (buf : Bytes) : (c.past buf).limit = c.limit := by
  unfold past
  split <;> rfl

/-- **What is drained is the verdict on the complete lines**, and a pending line must not be
too long; with the largest limit there must not be any. -/
theorem drain_spec (h : c.Scanned buf) (read : List Line) : c.drain buf read =
    match verdict c.limit (lines buf) with
    | .closed ls => .closed (ls.reverse ++ read) c.rewind
    | .failed _ f => .failed f c.rewind
    | .pending ls =>
      if c.limit.toNat + 1 < UInt64.size then
        if c.limit.toNat + 1 < (tail buf).length then
          .failed (.pendingTooLong c.limit) (c.past buf)
        else .pending (ls.reverse ++ read) { c with resume := (tail buf).length } (tail buf)
      else .panicked (c.past buf) := by
  induction buf using byLines generalizing c read with
  | rest w hw =>
    rw [drain_eq, past, lines_of_notMem hw, tail_of_notMem hw]
    by_cases hlim : c.limit.toNat + 1 < UInt64.size
    · rw [decode_pending hlim hw]
      by_cases hlong : c.limit.toNat + 1 < w.length <;> simp [hlim, hlong, verdict]
    · rw [decode_largest hlim hw]
      simp [hlim, verdict]
  | line raw w hraw ih =>
    rw [drain_eq, decode_line h hraw, past_line hraw, lines_line hraw, tail_line hraw, verdict,
      answerFor]
    rcases readLine c.limit raw with f | l
    · simp
    · by_cases hl : l.isBlank
      · simp [hl]
      · simp only [hl, Bool.false_eq_true, if_false]
        rw [ih (scanned_rewind c w)]
        have hlim : c.rewind.limit = c.limit := rfl
        rw [hlim]
        rcases verdict c.limit (lines w) with ls | ⟨ls, f⟩ | ls <;>
          simp [rewind]

/-! ### The end of the bytes -/

lemma drainEof_eq (c : Codec) (buf : Bytes) (read : List Line) : c.drainEof buf read =
    match c.decodeEof buf with
    | ⟨.error f, c', _⟩ => .failed f c'
    | ⟨.panicked, c', _⟩ => .panicked c'
    | ⟨.ok none, c', _⟩ => .closed read c'
    | ⟨.ok (some l), c', rest⟩ =>
      if l.isBlank then .closed read c' else c'.drainEof rest (l :: read) := by
  rw [drainEof]
  split <;> simp [*]

lemma drainEof_nil (hlim : c.limit.toNat + 1 < UInt64.size) (read : List Line) :
    c.drainEof [] read = .closed read c.rewind := by
  rw [drainEof_eq, decodeEof_pending hlim List.not_mem_nil]
  simp

/-- A pending line that is not too long is the last line. -/
lemma drainEof_tail (hlim : c.limit.toNat + 1 < UInt64.size) (h : lf ∉ buf)
    (hle : buf.length ≤ c.limit.toNat + 1) (read : List Line) :
    c.drainEof buf read =
      match (verdict c.limit (allLines buf)).toExcept with
      | .ok ls => .closed (ls.reverse ++ read) c.rewind
      | .error f => .failed f c.rewind := by
  have hrewind : c.rewind.limit.toNat + 1 < UInt64.size := hlim
  rw [allLines_of_notMem h]
  by_cases hbuf : buf = []
  · rw [hbuf, drainEof_nil hlim]
    simp [verdict]
  · rw [drainEof_eq, decodeEof_pending hlim h, if_neg (Nat.not_lt.2 hle), if_neg hbuf, if_neg hbuf,
      verdict, answerFor]
    rcases readLine c.limit buf with f | l
    · simp
    · by_cases hl : l.isBlank
      · simp [hl]
      · simp [hl, verdict, drainEof_nil hrewind]
        rfl

lemma readAll_eq (c : Codec) (buf : Bytes) (read : List Line) : c.readAll buf read =
    match c.decodeEof buf with
    | ⟨.error f, _, _⟩ => .error f
    | ⟨.panicked, _, _⟩ => .panicked
    | ⟨.ok none, _, _⟩ => .ok read.reverse
    | ⟨.ok (some l), c', rest⟩ =>
      if l.isBlank then .ok read.reverse else c'.readAll rest (l :: read) := by
  rw [readAll]
  split <;> simp [*]

/-- **All bytes at once**: what is read is what the buffer comes to. -/
theorem readAll_spec (hlim : c.limit.toNat + 1 < UInt64.size) (h : c.Scanned buf)
    (read : List Line) :
    c.readAll buf read = .ofExcept ((atEnd c.limit buf).after read.reverse).toExcept := by
  induction buf using byLines generalizing c read with
  | rest w hw =>
    rw [readAll_eq, decodeEof_pending hlim hw, atEnd, lines_of_notMem hw, tail_of_notMem hw]
    by_cases hlong : c.limit.toNat + 1 < w.length
    · simp [hlong, verdict, Result.ofExcept]
    · by_cases hnil : w = []
      · simp [hnil, verdict, Result.ofExcept]
      · rw [if_neg hlong, if_neg hnil, if_neg hlong, if_neg hnil, verdict, verdict, answerFor]
        rcases readLine c.limit w with f | l
        · simp [Result.ofExcept]
        · by_cases hl : l.isBlank
          · simp [hl, Result.ofExcept]
          · have hrewind : c.rewind.limit.toNat + 1 < UInt64.size := hlim
            rw [verdict]
            simp [hl, readAll_eq, decodeEof_pending hrewind, Result.ofExcept]
  | line raw w hraw ih =>
    rw [readAll_eq, decodeEof_line h hraw, atEnd_line hraw, answerFor]
    rcases readLine c.limit raw with f | l
    · simp [Result.ofExcept]
    · by_cases hl : l.isBlank
      · simp [hl, Result.ofExcept]
      · have hrewind : c.rewind.limit.toNat + 1 < UInt64.size := hlim
        simp only [hl, Bool.false_eq_true, if_false]
        rw [ih hrewind (scanned_rewind c w), Verdict.after_after, List.reverse_cons]
        rfl

end Codec

lemma defaultLimit_lt : defaultLimit.toNat + 1 < UInt64.size := by decide

lemma decodeCommand_eq (w : Bytes) : decodeCommand w =
    match (atEnd defaultLimit w).toExcept with
    | .error f => .error f
    | .ok ls => if h : ls ≠ [] then .ok ⟨ls, h⟩ else .error .noLines := by
  have hall : ({} : Codec).readAll w [] = .ofExcept (atEnd defaultLimit w).toExcept := by
    have hspec := Codec.readAll_spec (c := {}) defaultLimit_lt (Codec.scanned_of_resume rfl w) []
    rwa [List.reverse_nil, Verdict.after_nil] at hspec
  rw [decodeCommand, hall]
  cases (atEnd defaultLimit w).toExcept <;> rfl

lemma decodeCommand_ne_panicked (w : Bytes) : decodeCommand w ≠ .panicked := by
  rw [decodeCommand_eq]
  rcases (atEnd defaultLimit w).toExcept with f | ls
  · simp
  · by_cases h : ls ≠ [] <;> simp [h]

end LinkCourier.Framing
