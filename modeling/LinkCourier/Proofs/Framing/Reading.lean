import Mathlib.Data.List.Basic
import LinkCourier.Proofs.Framing.Codec

/-!
Reading a command from a stream, as judging all that has come so far whenever something
comes. It follows that it makes no difference how a stream is cut into reads.
-/

namespace LinkCourier.Framing

variable {limit : UInt64}

/-- Reads a command by starting over from the first byte whenever something comes. With the
largest limit it panics as soon as it has to wait. -/
def listen (limit : UInt64) (got : Bytes) (as : List Arrival) : Answer (Option Command) :=
  match verdict limit (lines got) with
  | .pending _ =>
    if limit.toNat + 1 < UInt64.size then
      if limit.toNat + 1 < (tail got).length then .done (.error (.framing (.pendingTooLong limit)))
      else match as with
        | [] => .done (verdict limit (allLines got)).result
        | .bytes w :: rest =>
          if w = [] then .done (verdict limit (allLines got)).result
          else listen limit (got ++ w) rest
        | .fault e :: _ => .done (.error (.io e))
        | .silence :: _ => .waiting
    else .done .panicked
  | v => .done v.result

section

variable {got : Bytes} {ls : List Line} {f : Fault}

lemma listen_closed (hv : verdict limit (lines got) = .closed ls) (as : List Arrival) :
    listen limit got as = .done (.ok (finish ls.reverse)) := by
  rw [listen.eq_def, hv]
  rfl

lemma listen_failed (hv : verdict limit (lines got) = .failed ls f) (as : List Arrival) :
    listen limit got as = .done (.error (.framing f)) := by
  rw [listen.eq_def, hv]
  rfl

lemma listen_largest (hmax : ¬ limit.toNat + 1 < UInt64.size)
    (hv : verdict limit (lines got) = .pending ls) (as : List Arrival) :
    listen limit got as = .done .panicked := by
  rw [listen.eq_def, hv]
  exact if_neg hmax

variable (hlim : limit.toNat + 1 < UInt64.size)

include hlim

lemma listen_tooLong (hv : verdict limit (lines got) = .pending ls)
    (hlong : limit.toNat + 1 < (tail got).length) (as : List Arrival) :
    listen limit got as = .done (.error (.framing (.pendingTooLong limit))) := by
  rw [listen.eq_def, hv]
  exact (if_pos hlim).trans (if_pos hlong)

lemma listen_pending (hv : verdict limit (lines got) = .pending ls)
    (hlong : ¬ limit.toNat + 1 < (tail got).length) (as : List Arrival) :
    listen limit got as = match as with
      | [] => .done (verdict limit (allLines got)).result
      | .bytes w :: rest =>
        if w = [] then .done (verdict limit (allLines got)).result
        else listen limit (got ++ w) rest
      | .fault e :: _ => .done (.error (.io e))
      | .silence :: _ => .waiting := by
  rw [listen.eq_def, hv]
  exact (if_pos hlim).trans (if_neg hlong)

end

lemma verdict_allLines_append (limit : UInt64) (u v : Bytes) : verdict limit (allLines (u ++ v)) =
    (verdict limit (lines u)).andThen (verdict limit (allLines (tail u ++ v))) := by
  rw [allLines_append, verdict_append]

/-! ### The codec starts over without looking twice -/

section

variable {c : Codec} {got w : Bytes} {read : List Line}

/-- One read later. Everything before `tail got` has been judged already. -/
lemma drain_got (hgot : verdict c.limit (lines got) = .pending read.reverse)
    (h : c.Scanned (tail got ++ w)) : c.drain (tail got ++ w) read =
    match verdict c.limit (lines (got ++ w)) with
    | .closed ls => .closed ls.reverse c.rewind
    | .failed _ f => .failed f c.rewind
    | .pending ls =>
      if c.limit.toNat + 1 < UInt64.size then
        if c.limit.toNat + 1 < (tail (got ++ w)).length then
          .failed (.pendingTooLong c.limit) (c.past (tail got ++ w))
        else .pending ls.reverse { c with resume := (tail (got ++ w)).length } (tail (got ++ w))
      else .panicked (c.past (tail got ++ w)) := by
  rw [Codec.drain_spec h, lines_append got w, verdict_append, hgot, ← tail_append]
  rcases verdict c.limit (lines (tail got ++ w)) with ls | ⟨ls, f⟩ | ls <;> simp

/-- The end of the stream. -/
lemma drainEof_got (hlim : c.limit.toNat + 1 < UInt64.size)
    (hgot : verdict c.limit (lines got) = .pending read.reverse)
    (hle : (tail got).length ≤ c.limit.toNat + 1) :
    (c.drainEof (tail got) read).answer = (verdict c.limit (allLines got)).result := by
  have happ := verdict_allLines_append c.limit got []
  rw [List.append_nil, List.append_nil, hgot] at happ
  rw [Codec.drainEof_tail hlim (lf_notMem_tail got) hle, happ]
  rcases verdict c.limit (allLines (tail got)) with ls | ⟨ls, f⟩ | ls <;>
    simp [Drained.answer, Verdict.result]

end

lemma readOn_eq_listen {c : Codec} {got w : Bytes} {read : List Line}
    (hgot : verdict c.limit (lines got) = .pending read.reverse)
    (h : c.Scanned (tail got ++ w)) (taken : ℕ) (as : List Arrival) :
    (c.readOn (tail got ++ w) read taken as).1.answer = listen c.limit (got ++ w) as := by
  rw [Codec.readOn.eq_def, drain_got hgot h]
  rcases hv : verdict c.limit (lines (got ++ w)) with ls | ⟨ls, f⟩ | ls
  · rw [listen_closed hv]
    rfl
  · rw [listen_failed hv]
    rfl
  by_cases hlim : c.limit.toNat + 1 < UInt64.size
  swap
  · rw [listen_largest hlim hv]
    simp [hlim, Drained.answer]
  by_cases hlong : c.limit.toNat + 1 < (tail (got ++ w)).length
  · rw [listen_tooLong hlim hv hlong]
    simp [hlim, hlong, Drained.answer]
  have hv' : verdict c.limit (lines (got ++ w)) = .pending ls.reverse.reverse := by simpa using hv
  have hend := drainEof_got (c := { c with resume := (tail (got ++ w)).length }) hlim hv'
    (Nat.le_of_not_lt hlong)
  rw [listen_pending hlim hv hlong]
  simp only [hlim, hlong, if_true, if_false]
  rcases as with _ | ⟨u | e | _, as⟩
  · rw [hend]
  · by_cases hu : u = []
    · simp only [hu, if_true]
      rw [hend]
    · simp only [hu, if_false]
      refine readOn_eq_listen (c := { c with resume := (tail (got ++ w)).length }) hv' ?_ _ as
      refine Codec.Scanned.append ⟨Nat.le_refl _, ?_⟩ u
      rw [List.take_length]
      exact lf_notMem_tail _
  · rfl
  · rfl

/-- **Reading is judging all that has come so far whenever something comes.** -/
theorem readCommand_eq_listen {c : Codec} (h : c.resume = 0) (as : List Arrival) :
    (c.readCommand as).1.answer = listen c.limit [] as := by
  have hgot : verdict c.limit (lines []) = .pending [].reverse := rfl
  exact readOn_eq_listen hgot (Codec.scanned_of_resume h (tail [] ++ [])) 0 as

lemma result_ne_panicked (v : Verdict) : v.result ≠ .panicked := by
  rw [Verdict.result]
  split <;> simp

lemma listen_ne_panicked (hlim : limit.toNat + 1 < UInt64.size) (got : Bytes) (as : List Arrival) :
    listen limit got as ≠ .done .panicked := by
  fun_induction listen limit got as with
  | case1 | case5 | case6 => simp
  | case2 | case3 | case8 => simp [result_ne_panicked]
  | case4 got ls hv hlim' hlong w rest hw ih => exact ih
  | case7 as got ls hv hmax => exact absurd hlim hmax

/-- With the largest limit the first call panics already, and leaves the codec as it is. -/
lemma readCommand_largest {c : Codec} (hmax : ¬ c.limit.toNat + 1 < UInt64.size)
    (as : List Arrival) : c.readCommand as = (⟨.done .panicked, 0⟩, c) := by
  have hdrain : c.drain [] [] = .panicked c := by
    rw [Codec.drain_eq, Codec.decode_largest hmax List.not_mem_nil]
  rw [Codec.readCommand, Codec.readOn.eq_def, hdrain]
  rfl

/-- **When reading panics**: with the largest limit, whatever comes, and with no other one. -/
theorem readCommand_eq_panicked_iff (as : List Arrival) :
    (({ limit } : Codec).readCommand as).1.answer = .done .panicked ↔
      ¬ limit.toNat + 1 < UInt64.size := by
  constructor
  · intro h hlim
    rw [readCommand_eq_listen rfl] at h
    exact listen_ne_panicked hlim [] as h
  · intro hmax
    rw [readCommand_largest hmax]

end LinkCourier.Framing
