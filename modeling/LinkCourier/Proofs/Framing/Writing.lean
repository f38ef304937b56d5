import Mathlib.Data.List.Basic
import LinkCourier.Framing.Stream

/-!
Writing to a sink that takes bytes in parts. However much of what is left each write takes, as long
as it takes something, the sink ends up with the same bytes: all of them, and then it is flushed
once, or as many as there is room for, and then the failure is reported and nothing is flushed.
-/

namespace LinkCourier.Framing

/-! ### What a sink accepts -/

/-- How many of `n` bytes there is room for. -/
def Sink.fitting (s : Sink) (n : ℕ) : ℕ :=
  match s.room with
  | none => n
  | some r => min r n

/-- How many of `n` bytes a sink accepts in all: those that there is room for, and none if its
writes take none. -/
def Sink.capacity (s : Sink) (n : ℕ) : ℕ := if s.step = some 0 then 0 else s.fitting n

/-- How the write that accepts nothing is reported: as the refusal of the sink where there is no
room, if it has one, and otherwise as a write of no bytes. -/
def Sink.stopFault (s : Sink) : IoError :=
  if s.step = some 0 ∧ s.room ≠ some 0 then .plain .writeZero
  else s.refusal.getD (.plain .writeZero)

/-- The writes of `w` on a sink, each of which takes some of the bytes that are left. How many it
takes is up to the sink, as long as it accepts them. -/
inductive Course : Sink → Bytes → List Bytes → Except Failure Unit → Prop where
  | complete (s : Sink) : Course s [] [] (.ok ())
  | refused {s : Sink} {w : Bytes} {e : IoError} (hw : w ≠ [])
    (h : s.accepts w.length = .error e) : Course s w [] (.error (.io e))
  | stuck {s : Sink} {w : Bytes} (hw : w ≠ []) (h : s.accepts w.length = .ok 0) :
    Course s w [] (.error (.io (.plain .writeZero)))
  | taken {s : Sink} {w : Bytes} {m n : ℕ} {got : List Bytes} {r : Except Failure Unit}
    (h : s.accepts w.length = .ok m) (hpos : 0 < n) (hle : n ≤ m)
    (rest : Course (s.use n) (w.drop n) got r) : Course s w (w.take n :: got) r

/-- What the writes come to: if they have brought everything, the sink is flushed once. -/
def Sink.settle (s : Sink) (got : List Bytes) : Except Failure Unit → Written
  | .error f => ⟨got.flatten, 0, .error f⟩
  | .ok () => match s.flushFault with
    | some e => ⟨got.flatten, 1, .error (.io e)⟩
    | none => ⟨got.flatten, 1, .ok ()⟩

variable {s : Sink} {w : Bytes} {got : List Bytes} {r : Except Failure Unit} {e : IoError}
  {k m n : ℕ}

/-! ### One write -/

namespace Sink

lemma fitting_le (s : Sink) (n : ℕ) : s.fitting n ≤ n := by
  unfold fitting
  split
  · exact Nat.le_refl n
  · exact Nat.min_le_right _ n

lemma fitting_full (h : s.room = some 0) (n : ℕ) : s.fitting n = 0 := by
  simp [fitting, h]

lemma fitting_pos (h : s.room ≠ some 0) (hn : 0 < n) : 0 < s.fitting n := by
  unfold fitting
  split
  · exact hn
  · rename_i r hroom
    have hr : r ≠ 0 := fun h0 => h (h0 ▸ hroom)
    omega

lemma capacity_le (s : Sink) (n : ℕ) : s.capacity n ≤ n := by
  unfold capacity
  split
  · exact Nat.zero_le n
  · exact s.fitting_le n

lemma capacity_full (h : s.room = some 0) (n : ℕ) : s.capacity n = 0 := by
  rw [capacity, fitting_full h, ite_self]

lemma accepts_full (h : s.room = some 0) (n : ℕ) :
    s.accepts n = s.refusal.elim (.ok 0) .error := by
  unfold accepts
  simp only [h]
  cases s.refusal <;> rfl

lemma accepts_open (h : s.room ≠ some 0) (n : ℕ) :
    s.accepts n = .ok (min (s.step.getD n) (s.fitting n)) := by
  unfold accepts fitting
  rcases hroom : s.room with _ | _ | r
  · rfl
  · exact absurd hroom h
  · rfl

lemma le_capacity (h : s.accepts n = .ok m) : m ≤ s.capacity n := by
  by_cases hroom : s.room = some 0
  · rw [accepts_full hroom] at h
    cases hr : s.refusal <;> rw [hr] at h <;> cases h
    exact Nat.zero_le _
  · rw [accepts_open hroom] at h
    cases h
    by_cases hstep : s.step = some 0
    · simp [hstep]
    · rw [capacity, if_neg hstep]
      exact Nat.min_le_right _ _

/-- A write that is refused is one for which there is no room. -/
lemma of_accepts_error (h : s.accepts n = .error e) : s.capacity n = 0 ∧ s.stopFault = e := by
  by_cases hroom : s.room = some 0
  · rw [accepts_full hroom] at h
    cases hr : s.refusal <;> rw [hr] at h <;> cases h
    exact ⟨capacity_full hroom n, by simp [stopFault, hroom, hr]⟩
  · rw [accepts_open hroom] at h
    cases h

/-- A write takes nothing if there is no room and no refusal, or if no write takes anything. -/
lemma of_accepts_zero (hn : 0 < n) (h : s.accepts n = .ok 0) :
    s.capacity n = 0 ∧ s.stopFault = .plain .writeZero := by
  by_cases hroom : s.room = some 0
  · rw [accepts_full hroom] at h
    cases hr : s.refusal <;> rw [hr] at h <;> cases h
    exact ⟨capacity_full hroom n, by simp [stopFault, hroom, hr]⟩
  · have hpos : 0 < s.fitting n := fitting_pos hroom hn
    rw [accepts_open hroom, Except.ok.injEq] at h
    have hstep : s.step = some 0 := by
      cases hs : s.step with
      | none => rw [hs, Option.getD_none] at h; omega
      | some k => rw [hs, Option.getD_some] at h; congr 1; omega
    exact ⟨if_pos hstep, if_pos ⟨hstep, hroom⟩⟩

/-- What a sink has taken it has no room for any more. -/
lemma capacity_use (hpos : 0 < k) (hle : k ≤ s.capacity n) :
    (s.use k).capacity (n - k) = s.capacity n - k ∧ (s.use k).stopFault = s.stopFault := by
  have hstep : s.step ≠ some 0 := by
    intro hstep
    rw [capacity, if_pos hstep] at hle
    omega
  have hstep' : (s.use k).step ≠ some 0 := hstep
  have hfitting : (s.use k).fitting (n - k) = s.fitting n - k := by
    unfold fitting use
    cases s.room with
    | none => rfl
    | some r => simp only [Option.map_some]; omega
  constructor
  · rw [capacity, if_neg hstep', hfitting, capacity, if_neg hstep]
  · rw [stopFault, if_neg fun h => hstep' h.1, stopFault, if_neg fun h => hstep h.1]
    rfl

end Sink

/-! ### All writes -/

namespace Course

/-- The bytes taken are the first ones, as many as the sink accepts, and the writes succeed if
these are all. -/
lemma spec (h : Course s w got r) : got.flatten = w.take (s.capacity w.length) ∧
    r = if s.capacity w.length = w.length then .ok () else .error (.io s.stopFault) := by
  induction h with
  | complete s =>
    have hzero : s.capacity 0 = 0 := Nat.le_zero.1 (s.capacity_le 0)
    simp [hzero]
  | @refused s w e hw h =>
    have hne : 0 ≠ w.length := Nat.ne_of_lt (List.length_pos_iff.2 hw)
    obtain ⟨hzero, hfault⟩ := Sink.of_accepts_error h
    simp [hzero, hfault, hne]
  | @stuck s w hw h =>
    have hpos : 0 < w.length := List.length_pos_iff.2 hw
    obtain ⟨hzero, hfault⟩ := Sink.of_accepts_zero hpos h
    simp [hzero, hfault, Nat.ne_of_lt hpos]
  | @taken s w m n got r h hpos hle rest ih =>
    have hcap : n ≤ s.capacity w.length := Nat.le_trans hle (Sink.le_capacity h)
    have hlen : s.capacity w.length ≤ w.length := s.capacity_le w.length
    obtain ⟨hbytes, hresult⟩ := ih
    obtain ⟨huse, hfault⟩ := Sink.capacity_use hpos hcap
    rw [List.length_drop, huse] at hbytes hresult
    rw [hfault] at hresult
    constructor
    · -- the first `n` bytes, and those after them
      calc (w.take n :: got).flatten
          = w.take n ++ (w.drop n).take (s.capacity w.length - n) := by
            rw [List.flatten_cons, hbytes]
        _ = w.take (n + (s.capacity w.length - n)) := List.take_add.symm
        _ = w.take (s.capacity w.length) := by rw [Nat.add_sub_of_le hcap]
    · have hall : s.capacity w.length - n = w.length - n ↔ s.capacity w.length = w.length := by
        omega
      simp only [hresult, hall]

/-- A sink that takes all it accepts at once is one of the ways to write. -/
lemma writeAll (s : Sink) (w : Bytes) : Course s w (writeAll s w).1 (writeAll s w).2 := by
  fun_induction Framing.writeAll s w with
  | case1 s => exact .complete s
  | case2 s w hw e h => exact .refused hw h
  | case3 s w hw h => exact .stuck hw h
  | case4 s w hw n h hn got r hrest ih =>
    rw [hrest] at ih
    exact .taken h (Nat.pos_of_ne_zero hn) (Nat.le_refl n) ih

end Course

lemma write_eq_settle (s : Sink) (w : Bytes) :
    write s w = s.settle (writeAll s w).1 (writeAll s w).2 := by
  unfold write
  rcases writeAll s w with ⟨got, f | _⟩
  · rfl
  · cases hflush : s.flushFault <;> simp [Sink.settle, hflush]

namespace Sink

@[simp] lemma bytes_settle (s : Sink) (got : List Bytes) (r : Except Failure Unit) :
    (s.settle got r).bytes = got.flatten := by
  rcases r with f | _
  · rfl
  · cases hflush : s.flushFault <;> simp [settle, hflush]

@[simp] lemma flushes_settle_ok (s : Sink) (got : List Bytes) :
    (s.settle got (.ok ())).flushes = 1 := by
  cases hflush : s.flushFault <;> simp [settle, hflush]

lemma result_settle_ok (s : Sink) (got : List Bytes) : (s.settle got (.ok ())).result =
    match s.flushFault with
    | some e => .error (.io e)
    | none => .ok () := by
  cases hflush : s.flushFault <;> simp [settle, hflush]

end Sink

/-- How the bytes were taken makes no difference. -/
lemma Course.settle_eq {got' : List Bytes} {r' : Except Failure Unit} (h : Course s w got r)
    (h' : Course s w got' r') : s.settle got r = s.settle got' r' := by
  obtain ⟨hbytes, hresult⟩ := h.spec
  obtain ⟨hbytes', hresult'⟩ := h'.spec
  have hflatten : got.flatten = got'.flatten := hbytes.trans hbytes'.symm
  rw [hresult, ← hresult']
  unfold Sink.settle
  rw [hflatten]

/-! ### Complete or reported -/

/-- What has become of `w` is known from the outcome. The bytes accepted are the first ones, as
many as the sink accepts in all. If they are all, the sink has been flushed once, and the flush
decides; if not, it has not been flushed, and the write that took nothing is reported. -/
structure Written.Accounts (o : Written) (s : Sink) (w : Bytes) : Prop where
  bytes_eq : o.bytes = w.take (s.capacity w.length)
  isPrefix : o.bytes <+: w
  flushes_eq : o.flushes = if o.bytes = w then 1 else 0
  ok_iff : o.result = .ok () ↔ o.bytes = w ∧ o.flushes = 1 ∧ s.flushFault = none
  notFlushed : o.bytes = w → ∀ e, s.flushFault = some e → o.result = .error (.io e)
  stopped : o.bytes ≠ w → o.result = .error (.io s.stopFault)

lemma Course.accounts (h : Course s w got r) : (s.settle got r).Accounts s w := by
  obtain ⟨hbytes, hresult⟩ := h.spec
  have hfirst : got.flatten <+: w := hbytes ▸ List.take_prefix (s.capacity w.length) w
  by_cases hall : s.capacity w.length = w.length
  · have hw : got.flatten = w := by rw [hbytes, hall, List.take_length]
    rw [if_pos hall] at hresult
    subst hresult
    exact
      { bytes_eq := (s.bytes_settle got _).trans hbytes
        isPrefix := (s.bytes_settle got _).symm ▸ hfirst
        flushes_eq := by simp [hw]
        ok_iff := by cases hflush : s.flushFault <;> simp [Sink.result_settle_ok, hflush, hw]
        notFlushed := fun _ e he => by rw [Sink.result_settle_ok, he]
        stopped := fun hne => absurd ((s.bytes_settle got _).trans hw) hne }
  · have hne : got.flatten ≠ w := by
      intro hw
      have hlen := congrArg List.length hbytes
      rw [hw, List.length_take, Nat.min_eq_left (s.capacity_le w.length)] at hlen
      exact hall hlen.symm
    rw [if_neg hall] at hresult
    subst hresult
    exact
      { bytes_eq := hbytes
        isPrefix := hfirst
        flushes_eq := (if_neg hne).symm
        ok_iff := by simp [Sink.settle]
        notFlushed := fun hw => absurd hw hne
        stopped := fun _ => rfl }

lemma accounts_write (s : Sink) (w : Bytes) : (write s w).Accounts s w := by
  rw [write_eq_settle]
  exact (Course.writeAll s w).accounts

/-- **Writing is complete or reported**, for commands and for responses. No bytes at all are written
to every sink whose flush succeeds. And however many of the bytes that are left each write takes,
what has been accepted in the end, the flushes and the result are the same. -/
theorem write_complete_or_reported (s : Sink) :
    (∀ c, (writeCommand s c).Accounts s (encodeCommand c)) ∧
      (∀ w, (writeResponse s w).Accounts s w) ∧
      ((writeResponse s []).result = .ok () ↔ s.flushFault = none) ∧
      ∀ w got r, Course s w got r → s.settle got r = write s w := by
  refine ⟨fun c => accounts_write s (encodeCommand c), accounts_write s, ?_, fun w got r h => ?_⟩
  · have hnil := accounts_write s []
    have hbytes : (write s []).bytes = [] := List.prefix_nil.1 hnil.isPrefix
    have hflushes : (write s []).flushes = 1 := by rw [hnil.flushes_eq, if_pos hbytes]
    calc (writeResponse s []).result = .ok ()
        ↔ (write s []).bytes = [] ∧ (write s []).flushes = 1 ∧ s.flushFault = none := hnil.ok_iff
      _ ↔ s.flushFault = none := by simp [hbytes, hflushes]
  · rw [write_eq_settle]
    exact h.settle_eq (Course.writeAll s w)

/-- Room for exactly the bytes there are, and for one byte less. -/
example :
    let s : Sink := { step := some 3, room := some 4, refusal := some (.plain .brokenPipe) }
    (writeResponse s [1, 2, 3, 4]).result = .ok () ∧
      (writeResponse s [1, 2, 3, 4, 5]).bytes = [1, 2, 3, 4] ∧
      (writeResponse s [1, 2, 3, 4, 5]).result = .error (.io (.plain .brokenPipe)) := by
  decide +kernel

end LinkCourier.Framing
