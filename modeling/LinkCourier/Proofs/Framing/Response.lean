import Mathlib.Data.List.Basic
import LinkCourier.Proofs.Framing.Cuts

/-!
A response is read all or nothing. How many bytes the stream brings decides about the limit, then
how it ends, and how the bytes are cut into reads makes no difference.
-/

namespace LinkCourier.Framing

/-- A stream that brings some pieces and then fails, or ends if no failure is given. -/
def bringing (pieces : List Bytes) (failure : Option IoError) : List Arrival :=
  pieces.map .bytes ++ (failure.map Arrival.fault).toList

variable {limit : UInt64} {w : Bytes} {pieces got : List Bytes} {as : List Arrival}
  {room taken : ℕ} {failure : Option IoError}

lemma allowance_eq (h : limit.toNat + 1 < UInt64.size) : allowance limit = limit.toNat + 1 := by
  unfold allowance
  omega

/-! ### Up to a number of bytes -/

lemma readUpTo_zero (taken : ℕ) (got : List Bytes) (as : List Arrival) :
    readUpTo 0 taken got as = (.done (.ok got.reverse.flatten), taken) := by
  rcases as with _ | ⟨w | e | _, as⟩ <;> simp [readUpTo]

lemma readUpTo_bytes (hw : w ≠ []) (hroom : room ≠ 0) : readUpTo room taken got (.bytes w :: as) =
    readUpTo (room - (w.take room).length) (taken + (w.take room).length) (w.take room :: got)
      as := by
  rw [readUpTo, if_neg (by simp [hw, hroom])]

/-- Pieces that fit are taken as a whole. -/
lemma readUpTo_of_le (hpieces : [] ∉ pieces) (hroom : pieces.flatten.length ≤ room) :
    readUpTo room taken got (pieces.map .bytes ++ as) =
      readUpTo (room - pieces.flatten.length) (taken + pieces.flatten.length)
        (pieces.reverse ++ got) as := by
  induction pieces generalizing room taken got with
  | nil => rfl
  | cons p pieces ih =>
    obtain ⟨hp, hpieces⟩ := not_or.1 (mt List.mem_cons.2 hpieces)
    have hpos : 0 < p.length := List.length_pos_iff.2 (Ne.symm hp)
    rw [List.flatten_cons, List.length_append] at hroom ⊢
    have htake : p.take room = p := List.take_of_length_le (by omega)
    rw [List.map_cons, List.cons_append, readUpTo_bytes (Ne.symm hp) (by omega), htake,
      ih hpieces (by omega), List.reverse_cons, List.append_assoc, List.singleton_append]
    congr 1 <;> omega

/-- Nothing is seen of what comes after the last byte that there is room for. -/
lemma readUpTo_of_ge (hpieces : [] ∉ pieces) (hroom : room ≤ pieces.flatten.length) :
    readUpTo room taken got (pieces.map .bytes ++ as) =
      (.done (.ok (got.reverse.flatten ++ pieces.flatten.take room)), taken + room) := by
  induction pieces generalizing room taken got with
  | nil =>
    obtain rfl : room = 0 := Nat.le_zero.1 hroom
    simp [readUpTo_zero]
  | cons p pieces ih =>
    obtain ⟨hp, hpieces⟩ := not_or.1 (mt List.mem_cons.2 hpieces)
    by_cases hzero : room = 0
    · subst hzero
      simp [readUpTo_zero]
    · rw [List.flatten_cons, List.length_append] at hroom
      have hlen : (p.take room).length = min room p.length := List.length_take
      rw [List.map_cons, List.cons_append, readUpTo_bytes (Ne.symm hp) hzero,
        ih hpieces (by omega), hlen, List.flatten_cons, List.take_append]
      have hrest : room - min room p.length = room - p.length := by omega
      have hsum : taken + min room p.length + (room - min room p.length) = taken + room := by omega
      rw [hsum, hrest]
      simp

/-! ### Responses -/

/-- What reading comes to when the bytes that have been read are held to the limit. -/
def judged (limit : UInt64) : Answer Bytes → Answer Bytes
  | .done (.ok w) =>
    if limit.toNat < w.length then .done (.error (.responseTooLarge limit)) else .done (.ok w)
  | a => a

lemma readResponse_answer (limit : UInt64) (as : List Arrival) :
    (readResponse limit as).answer = judged limit (readUpTo (allowance limit) 0 [] as).1 := by
  rw [readResponse]
  rcases readUpTo (allowance limit) 0 [] as with ⟨⟨_ | w | _⟩ | _, taken⟩
  case done.ok =>
    simp only [judged]
    split <;> rfl
  all_goals rfl

/-- Bytes up to the allowance decide alone. -/
lemma readResponse_of_ge (h : Cut w pieces) (hw : allowance limit ≤ w.length) :
    readResponse limit (pieces.map .bytes ++ as) =
      ⟨.done (if limit.toNat < allowance limit then .error (.responseTooLarge limit)
        else .ok (w.take (allowance limit))), allowance limit⟩ := by
  have hlen : (w.take (allowance limit)).length = allowance limit := List.length_take_of_le hw
  rw [readResponse, readUpTo_of_ge h.nil_notMem (by rwa [h.flatten_eq]), h.flatten_eq]
  simp only [List.reverse_nil, List.flatten_nil, List.nil_append, Nat.zero_add, hlen]
  split <;> rfl

/-- With fewer bytes the end of the stream decides. -/
lemma readResponse_of_lt (h : Cut w pieces) (hw : w.length < allowance limit) :
    readResponse limit (bringing pieces failure) =
      ⟨.done (match failure with
        | some e => .error (.io e)
        | none => .ok w), w.length⟩ := by
  have hle : ¬ limit.toNat < w.length := by
    unfold allowance at hw
    omega
  have hroom : allowance limit - w.length ≠ 0 := by omega
  rw [readResponse, bringing, readUpTo_of_le h.nil_notMem (by rw [h.flatten_eq]; omega),
    h.flatten_eq]
  cases failure with
  | none => simp [readUpTo, h.flatten_eq, hle]
  | some e => simp [readUpTo, hroom]

/-- The cut makes no difference. -/
lemma readResponse_cut {pieces' : List Bytes} (h : Cut w pieces) (h' : Cut w pieces') :
    readResponse limit (bringing pieces failure) =
      readResponse limit (bringing pieces' failure) := by
  by_cases hw : w.length < allowance limit
  · rw [readResponse_of_lt h hw, readResponse_of_lt h' hw]
  · have hge : allowance limit ≤ w.length := Nat.le_of_not_lt hw
    rw [bringing, bringing, readResponse_of_ge h hge, readResponse_of_ge h' hge]

/-- **A response is read all or nothing.** If the stream brings more bytes than the limit, the
response is too large; if not, it is the failure of the stream, or all of its bytes if there is
none. No more than one byte over the limit is taken; what comes after that byte is never seen; and
the cut makes no difference. With the largest limit the bytes have to be fewer than 64 bits can
count, as those that are held in memory always are. -/
theorem readResponse_all_or_nothing (failure : Option IoError) (h : Cut w pieces)
    (hcount : limit.toNat + 1 = UInt64.size → w.length + 1 < UInt64.size) :
    let r := readResponse limit (bringing pieces failure)
    r.answer = .done (if limit.toNat + 1 ≤ w.length then .error (.responseTooLarge limit)
      else match failure with
        | some e => .error (.io e)
        | none => .ok w) ∧
      r.taken = min (limit.toNat + 1) w.length ∧
      (limit.toNat + 1 ≤ w.length → ∀ as, readResponse limit (pieces.map .bytes ++ as) = r) ∧
      ∀ pieces', Cut w pieces' → readResponse limit (bringing pieces' failure) = r := by
  intro r
  have hsize : limit.toNat + 1 ≤ UInt64.size := limit.toNat_lt_size
  by_cases hlarge : limit.toNat + 1 ≤ w.length
  · have hlim : limit.toNat + 1 < UInt64.size := by omega
    have hallow := allowance_eq hlim
    have hrest (as : List Arrival) : readResponse limit (pieces.map .bytes ++ as) =
        ⟨.done (.error (.responseTooLarge limit)), limit.toNat + 1⟩ := by
      rw [readResponse_of_ge h (by omega), hallow, if_pos (Nat.lt_succ_self _)]
    have hr : r = ⟨.done (.error (.responseTooLarge limit)), limit.toNat + 1⟩ := hrest _
    refine ⟨?_, ?_, fun _ as => (hrest as).trans hr.symm, fun _ h' => readResponse_cut h' h⟩
    · rw [hr, if_pos hlarge]
    · rw [hr, Nat.min_eq_left hlarge]
  · have hlt : w.length < allowance limit := by
      unfold allowance
      omega
    have hr : r = _ := readResponse_of_lt h hlt
    refine ⟨?_, ?_, fun hge => absurd hge hlarge, fun _ h' => readResponse_cut h' h⟩
    · rw [if_neg hlarge]
      exact congrArg Reading.answer hr
    · rw [Nat.min_eq_right (by omega)]
      exact congrArg Reading.taken hr

/-- A byte too many, a failure right after the last byte allowed, and the largest limit. -/
theorem readResponse_all_or_nothing_boundary :
    let pieces : List Bytes := [[1, 2], [3]]
    let reset : IoError := .plain .connectionReset
    let largest : UInt64 := 18446744073709551615
    Cut [1, 2, 3] pieces ∧ (largest.toNat + 1 = UInt64.size → 3 + 1 < UInt64.size) ∧
      (readResponse 2 (bringing pieces (some reset))).answer =
        .done (.error (.responseTooLarge 2)) ∧
      (readResponse 2 (pieces.map .bytes ++ [.silence])).taken = 3 ∧
      (readResponse 3 (bringing pieces (some reset))).answer = .done (.error (.io reset)) ∧
      (readResponse largest (bringing pieces none)).answer = .done (.ok [1, 2, 3]) := by
  intro pieces reset largest
  have h : Cut [1, 2, 3] pieces := ⟨rfl, by decide⟩
  have hcount (limit : UInt64) : limit.toNat + 1 = UInt64.size → 3 + 1 < UInt64.size :=
    fun _ => by decide
  obtain ⟨htwo, htaken, hafter, -⟩ := readResponse_all_or_nothing (some reset) h (hcount 2)
  obtain ⟨hthree, -⟩ := readResponse_all_or_nothing (some reset) h (hcount 3)
  obtain ⟨hlargest, -⟩ := readResponse_all_or_nothing none h (hcount largest)
  refine ⟨h, hcount largest, htwo, ?_, hthree, hlargest⟩
  rw [hafter (by decide) [.silence]]
  exact htaken

end LinkCourier.Framing
