import Mathlib.Data.List.Basic
import LinkCourier.Proofs.Framing.Grammar
import LinkCourier.Settings

/-!
A larger limit reads what a smaller one reads. Both bounds grow with the limit, the one for
complete lines and the one for a pending line, with one exception: the number above the largest
limit does not fit its width, so that with this limit every reading panics before it has read.
-/

namespace LinkCourier.Framing

/-- Settings that are let through have the limit. -/
def Admitted (limit : UInt64) : Prop :=
  ∃ s : Settings, s.check = .ok s ∧ s.maxLineBytes = limit

/-- Whatever is read with the first limit is read with the second one. -/
def Extends (m n : UInt64) : Prop :=
  ∀ as r, (({ limit := m } : Codec).readCommand as).1.answer = .done (.ok r) →
    (({ limit := n } : Codec).readCommand as).1.answer = .done (.ok r)

/-- Settings are let through when the endpoint is, and none of the numbers is zero. -/
lemma check_eq_ok_iff {s : Settings} :
    s.check = .ok s ↔ s.endpoint.fault? = none ∧ ∀ f, s.get f ≠ 0 := by
  have hcheck : s.check = .ok s ↔ s.fault? = none := by
    unfold Settings.check
    cases s.fault? <;> simp
  rw [hcheck, Settings.fault?]
  cases s.endpoint.fault? with
  | some f => simp
  | none => simp [Settings.Field.mem_all]

lemma admitted_iff {limit : UInt64} : Admitted limit ↔ limit ≠ 0 := by
  constructor
  · rintro ⟨s, hs, rfl⟩
    exact (check_eq_ok_iff.1 hs).2 .maxLineBytes
  · intro h
    have hendpoint : Endpoint.fault? default = none := by decide
    refine ⟨{ maxLineBytes := limit }, check_eq_ok_iff.2 ⟨hendpoint, fun f => ?_⟩, rfl⟩
    cases f
    case maxLineBytes => exact h
    all_goals simp [Settings.get]

variable {m n : UInt64} {raw : Bytes} {raws : List Bytes} {l : Line} {ls : List Line}

/-! ### Complete lines -/

lemma readLine_mono (hmn : m ≤ n) (h : readLine m raw = .ok l) : readLine n raw = .ok l := by
  obtain ⟨⟨hle, htext⟩, hline⟩ := readLine_eq_ok_iff.1 h
  have hle' : (dropCr raw).length ≤ n.toNat := Nat.le_trans hle (UInt64.le_iff_toNat_le.1 hmn)
  exact readLine_eq_ok_iff.2 ⟨⟨hle', htext⟩, hline⟩

/-- A verdict without a fault does not depend on the limit. -/
lemma verdict_mono (hmn : m ≤ n) (h : (verdict m raws).toExcept = .ok ls) :
    verdict n raws = verdict m raws := by
  induction raws generalizing ls with
  | nil => rfl
  | cons raw raws ih =>
    rw [verdict] at h
    rw [verdict, verdict]
    rcases hraw : readLine m raw with f | l
    · rw [hraw] at h
      cases h
    · rw [hraw] at h
      rw [readLine_mono hmn hraw]
      by_cases hl : l.isBlank
      · simp [hl]
      · simp only [hl, Bool.false_eq_true, if_false, toExcept_after] at h ⊢
        obtain ⟨ms, hms, -⟩ := map_cons_eq_ok_iff.1 h
        rw [ih hms]

lemma result_mono (hmn : m ≤ n) {r : Option Command} (h : (verdict m raws).result = .ok r) :
    (verdict n raws).result = .ok r := by
  rcases hv : (verdict m raws).toExcept with f | ls
  · simp [Verdict.result, hv] at h
  · rw [verdict_mono hmn hv]
    exact h

/-! ### Pending lines -/

lemma listen_mono (hm : m.toNat + 1 < UInt64.size) (hn : n.toNat + 1 < UInt64.size) (hmn : m ≤ n)
    (got : Bytes) (as : List Arrival) {r : Option Command}
    (h : listen m got as = .done (.ok r)) : listen n got as = .done (.ok r) := by
  rcases hv : verdict m (lines got) with ls | ⟨ls, f⟩ | ls
  · have hv' : verdict n (lines got) = .closed ls := by
      rw [verdict_mono hmn (hv ▸ toExcept_closed ls), hv]
    rw [listen_closed hv] at h
    rw [listen_closed hv', h]
  · rw [listen_failed hv] at h
    cases h
  have hv' : verdict n (lines got) = .pending ls := by
    rw [verdict_mono hmn (hv ▸ toExcept_pending ls), hv]
  by_cases hlong : m.toNat + 1 < (tail got).length
  · rw [listen_tooLong hm hv hlong] at h
    cases h
  have hlong' : ¬ n.toNat + 1 < (tail got).length := by
    have hle := UInt64.le_iff_toNat_le.1 hmn
    omega
  rw [listen_pending hm hv hlong] at h
  rw [listen_pending hn hv' hlong']
  have hend (h : (Answer.done (verdict m (allLines got)).result) = .done (.ok r)) :
      Answer.done (verdict n (allLines got)).result = .done (.ok r) :=
    congrArg Answer.done (result_mono hmn (Answer.done.inj h))
  rcases as with _ | ⟨w | e | _, as⟩
  · exact hend h
  · by_cases hw : w = []
    · simp only [hw, if_true] at h ⊢
      exact hend h
    · simp only [hw, if_false] at h ⊢
      exact listen_mono hm hn hmn (got ++ w) as h
  · cases h
  · cases h

lemma extends_of_le (hn : n.toNat + 1 < UInt64.size) (hmn : m ≤ n) : Extends m n := by
  intro as r h
  have hm : m.toNat + 1 < UInt64.size := by
    have hle := UInt64.le_iff_toNat_le.1 hmn
    omega
  rw [readCommand_eq_listen rfl] at h ⊢
  exact listen_mono hm hn hmn [] as h

/-! ### The largest limit -/

/-- What ends at once without a line is nothing with the smallest limit, and does not come back with
the largest. -/
lemma not_extends_largest (hmax : ¬ n.toNat + 1 < UInt64.size) : ¬ Extends 1 n := by
  intro h
  have hone : (({ limit := 1 } : Codec).readCommand []).1.answer = .done (.ok none) := by
    rw [readCommand_eq_listen rfl]
    rfl
  have hlargest := h [] none hone
  rw [readCommand_largest hmax] at hlargest
  cases hlargest

/-- The sum in the width of the limit is the exact one unless it leaves the width. -/
lemma toNat_succ_iff (n : UInt64) :
    (n + 1).toNat = n.toNat + 1 ↔ n.toNat + 1 < UInt64.size := by
  have hsum : (n + 1).toNat = (n.toNat + 1) % UInt64.size := UInt64.toNat_add n 1
  rw [hsum]
  rcases below_or_largest n with h | h
  · exact iff_of_true (Nat.mod_eq_of_lt h) h
  · rw [h, Nat.mod_self]
    exact iff_of_false (by decide) (Nat.lt_irrefl _)

/-- **Which limits extend all smaller ones**: those that have a number above them, and no other.
The same are those above which the allowance for a pending line is a number, and those with which
reading comes back at all, from any stream. -/
theorem extends_iff (n : UInt64) :
    ((∀ m, Admitted m → m ≤ n → Extends m n) ↔ n.toNat + 1 < UInt64.size) ∧
      ((n + 1).toNat = n.toNat + 1 ↔ n.toNat + 1 < UInt64.size) ∧
      ∀ as, (({ limit := n } : Codec).readCommand as).1.answer = .done .panicked ↔
        ¬ n.toNat + 1 < UInt64.size := by
  refine ⟨⟨fun h => ?_, fun hn m _ hmn => extends_of_le hn hmn⟩, toNat_succ_iff n,
    readCommand_eq_panicked_iff⟩
  by_contra hmax
  have hle : 1 ≤ n := by
    have hlt := n.toNat_lt_size
    rw [UInt64.le_iff_toNat_le]
    exact Nat.pos_of_ne_zero fun hzero => hmax (by rw [hzero]; decide)
  exact not_extends_largest hmax (h 1 (admitted_iff.2 (by decide)) hle)

/-- The check lets the largest limit through, with which every reading panics, also that of a line
which the usual limit reads. -/
theorem largest_limit_not_extends :
    let s : Settings := { maxLineBytes := 0xffffffffffffffff }
    let as : List Arrival := [.bytes [118, 100], .bytes [13, 10]]
    s.check = .ok s ∧
      (({} : Codec).readCommand as).1.answer =
        .done (.ok (some ⟨[⟨['v', 'd'], Line.unbroken_of_any rfl⟩], by decide⟩)) ∧
      (({ limit := s.maxLineBytes } : Codec).readCommand as).1.answer = .done .panicked ∧
      ¬ ∀ m n, Admitted m → Admitted n → m ≤ n → Extends m n := by
  intro s as
  have hmax : ¬ s.maxLineBytes.toNat + 1 < UInt64.size := by decide
  refine ⟨by decide, ?_, ?_, fun h => not_extends_largest hmax ?_⟩
  · rw [readCommand_eq_listen rfl]
    rfl
  · exact (readCommand_eq_panicked_iff as).2 hmax
  · exact h 1 s.maxLineBytes (admitted_iff.2 (by decide)) (admitted_iff.2 (by decide)) (by decide)

end LinkCourier.Framing
