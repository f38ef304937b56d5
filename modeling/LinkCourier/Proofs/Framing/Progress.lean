import Mathlib.Data.List.Basic
import LinkCourier.Proofs.Framing.Recovery

/-!
The codec makes progress from any state, also where it resumes behind line feeds that it has not
looked at, or behind the end of the buffer. No access to the buffer is out of range, a call that
takes a line makes the buffer shorter, and all others leave it as it is. So a loop of calls ends
after one call for each line feed and two more, and a command is read in as many calls as there
are line feeds and reads, and three more.
-/

namespace LinkCourier.Framing

variable {c : Codec} {raw w buf : Bytes} {o : Outcome} {l : Line} {read : List Line} {n : ℕ}

/-! ### Accesses in range -/

/-- Cuts a buffer at an index, if there is such an index. -/
def cutAt? (buf : Bytes) (i : ℕ) : Option (Bytes × Bytes) :=
  if i ≤ buf.length then some (buf.take i, buf.drop i) else none

lemma cutAt?_of_le {i : ℕ} (h : i ≤ buf.length) : cutAt? buf i = some (buf.take i, buf.drop i) :=
  if_pos h

/-- All bytes but the last one, if there is one. -/
def withoutLast? (buf : Bytes) : Option Bytes := if buf = [] then none else some buf.dropLast

namespace Codec

/-- `decode` with every access checked; there is no outcome if one is out of range. -/
def decodeChecked (c : Codec) (buf : Bytes) : Option Outcome := do
  let start := min c.resume buf.length
  let (_, unseen) ← cutAt? buf start
  match unseen.findIdx? (· == lf) with
  | some i =>
    let (line, rest) ← cutAt? buf (start + i + 1)
    let raw ← withoutLast? line
    return ⟨answerFor c.limit raw, { c with resume := 0 }, rest⟩
  | none =>
    if c.limit.toNat + 1 < UInt64.size then
      if c.limit.toNat + 1 < buf.length then return ⟨.error (.pendingTooLong c.limit), c, buf⟩
      else return ⟨.ok none, { c with resume := buf.length }, buf⟩
    else return ⟨.panicked, c, buf⟩

/-- `decodeEof` with every access checked. -/
def decodeEofChecked (c : Codec) (buf : Bytes) : Option Outcome := do
  let o ← c.decodeChecked buf
  match o.answer with
  | .ok none =>
    if o.buffer = [] then return o
    else return ⟨answerFor o.codec.limit o.buffer, { o.codec with resume := 0 }, []⟩
  | _ => return o

/-- No access is out of range. -/
lemma decodeChecked_eq (c : Codec) (buf : Bytes) : c.decodeChecked buf = some (c.decode buf) := by
  have hstart : min c.resume buf.length ≤ buf.length := Nat.min_le_right _ _
  -- behind the end of the buffer there is as little to see as at its end
  have hunseen : buf.drop (min c.resume buf.length) = buf.drop c.resume := by
    rcases Nat.le_total c.resume buf.length with h | h
    · rw [Nat.min_eq_left h]
    · rw [Nat.min_eq_right h, List.drop_length, List.drop_of_length_le h]
  rw [decodeChecked, decode, cutAt?_of_le hstart]
  simp only [hunseen, Option.bind_eq_bind, Option.bind_some]
  cases hfind : (buf.drop c.resume).findIdx? (· == lf) with
  | none =>
    dsimp only
    split
    · split <;> rfl
    · rfl
  | some i =>
    have hi : c.resume + i < buf.length := by
      have hlt := (List.findIdx?_eq_some_iff_getElem.1 hfind).1
      rw [List.length_drop] at hlt
      omega
    -- a line feed has been found, so the codec resumes inside the buffer
    have hmin : min c.resume buf.length = c.resume := Nat.min_eq_left (by omega)
    have hline : buf.take (c.resume + i + 1) ≠ [] := by
      rw [← List.length_pos_iff, List.length_take]
      omega
    have hraw : (buf.take (c.resume + i + 1)).dropLast = buf.take (c.resume + i) := by
      rw [List.dropLast_eq_take, List.length_take, List.take_take]
      congr 1
      omega
    simp only [hmin, cutAt?_of_le (show c.resume + i + 1 ≤ buf.length by omega), withoutLast?,
      if_neg hline, hraw, Option.bind_some]
    rfl

lemma decodeEofChecked_eq (c : Codec) (buf : Bytes) :
    c.decodeEofChecked buf = some (c.decodeEof buf) := by
  rw [decodeEofChecked, decodeChecked_eq, decodeEof]
  simp only [Option.bind_eq_bind, Option.bind_some]
  rcases c.decode buf with ⟨f | ⟨_ | l⟩ | _, c', rest⟩
  · rfl
  · by_cases hrest : rest = []
    · simp only [hrest, if_true]
      rfl
    · simp only [hrest, if_false]
      rfl
  · rfl
  · rfl

/-! ### One call -/

/-- Everything that a call of `decode` can come to, in any state of the codec. -/
inductive Decoding (c : Codec) (buf : Bytes) : Outcome → Prop where
  | line (raw rest : Bytes) (h : buf = raw ++ lf :: rest) :
    Decoding c buf ⟨answerFor c.limit raw, c.rewind, rest⟩
  | tooLong : Decoding c buf ⟨.error (.pendingTooLong c.limit), c, buf⟩
  | pending (h : c.limit.toNat + 1 < UInt64.size) :
    Decoding c buf ⟨.ok none, { c with resume := buf.length }, buf⟩
  | panicked (h : ¬ c.limit.toNat + 1 < UInt64.size) : Decoding c buf ⟨.panicked, c, buf⟩

/-- Everything that a call of `decodeEof` can come to. -/
inductive DecodingEof (c : Codec) (buf : Bytes) : Outcome → Prop where
  | line (raw rest : Bytes) (h : buf = raw ++ lf :: rest) :
    DecodingEof c buf ⟨answerFor c.limit raw, c.rewind, rest⟩
  | tooLong : DecodingEof c buf ⟨.error (.pendingTooLong c.limit), c, buf⟩
  | nothing (h : buf = []) (hlim : c.limit.toNat + 1 < UInt64.size) :
    DecodingEof c buf ⟨.ok none, c.rewind, []⟩
  | rest (h : buf ≠ []) : DecodingEof c buf ⟨answerFor c.limit buf, c.rewind, []⟩
  | panicked (h : ¬ c.limit.toNat + 1 < UInt64.size) : DecodingEof c buf ⟨.panicked, c, buf⟩

lemma decoding (c : Codec) (buf : Bytes) : Decoding c buf (c.decode buf) := by
  unfold decode
  split
  · rename_i i hfind
    obtain ⟨hlt, hlf, -⟩ := List.findIdx?_eq_some_iff_getElem.1 hfind
    rw [List.length_drop] at hlt
    rw [List.getElem_drop, beq_iff_eq] at hlf
    have hi : c.resume + i < buf.length := by omega
    refine .line (buf.take (c.resume + i)) (buf.drop (c.resume + i + 1)) ?_
    rw [← hlf, List.getElem_cons_drop, List.take_append_drop]
  · split
    · rename_i hlim
      split
      · exact .tooLong
      · exact .pending hlim
    · rename_i hlim
      exact .panicked hlim

lemma decodingEof (c : Codec) (buf : Bytes) : DecodingEof c buf (c.decodeEof buf) := by
  have hdecoding := decoding c buf
  unfold decodeEof
  generalize c.decode buf = o at hdecoding
  cases hdecoding with
  | line raw rest h =>
    have hline : DecodingEof c buf ⟨answerFor c.limit raw, c.rewind, rest⟩ :=
      .line raw rest h
    unfold answerFor at hline ⊢
    cases hraw : readLine c.limit raw <;> rw [hraw] at hline <;> exact hline
  | tooLong => exact .tooLong
  | pending hlim =>
    by_cases hnil : buf = []
    · subst hnil
      exact .nothing rfl hlim
    · simp only [hnil, if_false]
      exact .rest hnil
  | panicked hlim => exact .panicked hlim

end Codec

/-- A call takes some bytes off the front of its buffer, or halts and leaves the buffer as it is. -/
structure Outcome.Progress (o : Outcome) (buf : Bytes) : Prop where
  takes : Halts o.answer = false → ∃ taken, taken ≠ [] ∧ buf = taken ++ o.buffer
  keeps : Halts o.answer = true → o.buffer = buf

lemma progress_line (c : Codec) (h : buf = raw ++ lf :: w) :
    (⟨answerFor c.limit raw, c.rewind, w⟩ : Outcome).Progress buf where
  takes _ := ⟨raw ++ [lf], by simp, by simp [h]⟩
  keeps hhalts := by simp [halts_answerFor] at hhalts

lemma progress_halts {a : Result Fault (Option Line)} (h : Halts a = true) (c : Codec) :
    (⟨a, c, buf⟩ : Outcome).Progress buf where
  takes hnot := by simp [h] at hnot
  keeps _ := rfl

lemma Codec.Decoding.progress (h : c.Decoding buf o) : o.Progress buf := by
  cases h with
  | line raw rest h => exact progress_line c h
  | tooLong => exact progress_halts rfl c
  | pending hlim => exact progress_halts rfl _
  | panicked hlim => exact progress_halts rfl c

lemma Codec.DecodingEof.progress (h : c.DecodingEof buf o) : o.Progress buf := by
  cases h with
  | line raw rest h => exact progress_line c h
  | tooLong => exact progress_halts rfl c
  | nothing h hlim => exact h ▸ progress_halts rfl _
  | panicked hlim => exact progress_halts rfl c
  | rest h =>
    refine ⟨fun _ => ⟨buf, h, (List.append_nil buf).symm⟩, fun hhalts => ?_⟩
    simp [halts_answerFor] at hhalts

lemma answerFor_ne_none (limit : UInt64) (raw : Bytes) : answerFor limit raw ≠ .ok none := by
  unfold answerFor
  split <;> simp

lemma answerFor_ne_panicked (limit : UInt64) (raw : Bytes) : answerFor limit raw ≠ .panicked := by
  unfold answerFor
  split <;> simp

namespace Codec

lemma DecodingEof.nothing_left (h : c.DecodingEof buf o) (hnone : o.answer = .ok none) :
    buf = [] ∧ c.limit.toNat + 1 < UInt64.size := by
  cases h with
  | line raw rest h => exact absurd hnone (answerFor_ne_none c.limit raw)
  | tooLong => cases hnone
  | nothing h hlim => exact ⟨h, hlim⟩
  | rest h => exact absurd hnone (answerFor_ne_none c.limit buf)
  | panicked hlim => cases hnone

lemma decodeEof_eq_none_iff (c : Codec) (buf : Bytes) :
    (c.decodeEof buf).answer = .ok none ↔ buf = [] ∧ c.limit.toNat + 1 < UInt64.size := by
  refine ⟨(c.decodingEof buf).nothing_left, ?_⟩
  rintro ⟨rfl, hlim⟩
  rw [decodeEof_pending hlim List.not_mem_nil]
  simp

lemma Decoding.largest (h : c.Decoding buf o) (hpanic : o.answer = .panicked) :
    ¬ c.limit.toNat + 1 < UInt64.size := by
  cases h with
  | line raw rest h => exact absurd hpanic (answerFor_ne_panicked c.limit raw)
  | tooLong => cases hpanic
  | pending hlim => cases hpanic
  | panicked hlim => exact hlim

lemma DecodingEof.largest (h : c.DecodingEof buf o) (hpanic : o.answer = .panicked) :
    ¬ c.limit.toNat + 1 < UInt64.size := by
  cases h with
  | line raw rest h => exact absurd hpanic (answerFor_ne_panicked c.limit raw)
  | tooLong => cases hpanic
  | nothing h hlim => cases hpanic
  | rest h => exact absurd hpanic (answerFor_ne_panicked c.limit buf)
  | panicked hlim => exact hlim

end Codec

/-! ### Loops of calls -/

/-- The line after which a loop goes on: one that was taken and is not blank. -/
def Outcome.next? (o : Outcome) : Option Line :=
  match o.answer with
  | .ok (some l) => if l.isBlank then none else some l
  | _ => none

/-- Where a loop ends: how many calls are left for others, the lines read, newest first, and the
last call. -/
structure Stop where
  spare : ℕ
  read : List Line
  last : Outcome

/-- Calls until there is no line to go on after; it has to end within `n` calls. -/
def within (call : Codec → Bytes → Outcome) : ℕ → Codec → Bytes → List Line → Option Stop
  | 0, _, _, _ => none
  | n + 1, c, buf, read =>
    let o := call c buf
    match o.next? with
    | some l => within call n o.codec o.buffer (l :: read)
    | none => some ⟨n, read, o⟩

/-- The function `F` is a loop of calls, and `out` is what it makes of where it ends. -/
def Loops {α : Type} (call : Codec → Bytes → Outcome) (out : List Line → Outcome → α)
    (F : Codec → Bytes → List Line → α) : Prop :=
  ∀ c buf read, F c buf read =
    match (call c buf).next? with
    | some l => F (call c buf).codec (call c buf).buffer (l :: read)
    | none => out read (call c buf)

/-- A measure that no call raises, and that a call after which a loop goes on lowers. -/
structure Lowers (call : Codec → Bytes → Outcome) (μ : Bytes → ℕ) : Prop where
  le : ∀ c buf, μ (call c buf).buffer ≤ μ buf
  lt : ∀ c buf l, (call c buf).next? = some l → μ (call c buf).buffer < μ buf

section

variable {α : Type} {call : Codec → Bytes → Outcome} {μ : Bytes → ℕ}
  {out : List Line → Outcome → α} {F : Codec → Bytes → List Line → α}

/-- **A loop ends.** The calls that it makes are paid for by what it takes off the measure, but for
one. -/
lemma exists_within (hμ : Lowers call μ) (hn : μ buf < n) (c : Codec) (read : List Line) :
    ∃ s, within call n c buf read = some s ∧ n + μ s.last.buffer ≤ s.spare + μ buf + 1 := by
  induction n generalizing c buf read with
  | zero => omega
  | succ n ih =>
    have hle := hμ.le c buf
    rw [within]
    cases hnext : (call c buf).next? with
    | none => exact ⟨_, rfl, by simp only; omega⟩
    | some l =>
      have hlt := hμ.lt c buf l hnext
      have hn' : μ (call c buf).buffer < n := by omega
      obtain ⟨s, hs, hspare⟩ := ih hn' (call c buf).codec (l :: read)
      exact ⟨s, hs, by omega⟩

lemma Loops.eq_out (hF : Loops call out F) {s : Stop} (h : within call n c buf read = some s) :
    F c buf read = out s.read s.last := by
  induction n generalizing c buf read with
  | zero => cases h
  | succ n ih =>
    rw [within] at h
    rw [hF c buf read]
    cases hnext : (call c buf).next? with
    | none =>
      rw [hnext] at h
      cases h
      rfl
    | some l =>
      rw [hnext] at h
      exact ih h

lemma Loops.map_within (hF : Loops call out F) (hμ : Lowers call μ) (hn : μ buf < n) :
    (within call n c buf read).map (fun s => out s.read s.last) = some (F c buf read) := by
  obtain ⟨s, hs, -⟩ := exists_within hμ hn c read
  rw [hs, hF.eq_out hs, Option.map_some]

end

/-! ### The loops of the codec -/

/-- What `drain` makes of where its loop ends. -/
def drained (read : List Line) (o : Outcome) : Drained :=
  match o.answer with
  | .error f => .failed f o.codec
  | .panicked => .panicked o.codec
  | .ok none => .pending read o.codec o.buffer
  | .ok (some _) => .closed read o.codec

/-- What `drainEof` makes of where its loop ends. -/
def drainedEof (read : List Line) (o : Outcome) : Drained :=
  match o.answer with
  | .error f => .failed f o.codec
  | .panicked => .panicked o.codec
  | .ok _ => .closed read o.codec

/-- What `readAll` makes of where its loop ends. -/
def linesRead (read : List Line) (o : Outcome) : Result Fault (List Line) :=
  match o.answer with
  | .error f => .error f
  | .panicked => .panicked
  | .ok _ => .ok read.reverse

lemma loops_drain : Loops Codec.decode drained Codec.drain := by
  intro c buf read
  rw [Codec.drain_eq]
  rcases c.decode buf with ⟨f | ⟨_ | l⟩ | _, c', rest⟩
  · rfl
  · rfl
  · by_cases hl : l.isBlank <;> simp [Outcome.next?, drained, hl]
  · rfl

lemma loops_drainEof : Loops Codec.decodeEof drainedEof Codec.drainEof := by
  intro c buf read
  rw [Codec.drainEof_eq]
  rcases c.decodeEof buf with ⟨f | ⟨_ | l⟩ | _, c', rest⟩
  · rfl
  · rfl
  · by_cases hl : l.isBlank <;> simp [Outcome.next?, drainedEof, hl]
  · rfl

lemma loops_readAll : Loops Codec.decodeEof linesRead Codec.readAll := by
  intro c buf read
  rw [Codec.readAll_eq]
  rcases c.decodeEof buf with ⟨f | ⟨_ | l⟩ | _, c', rest⟩
  · rfl
  · rfl
  · by_cases hl : l.isBlank <;> simp [Outcome.next?, linesRead, hl]
  · rfl

/-- How many lines can still come out of a buffer to which nothing will be added: one for each line
feed, and one more if there is a byte at all, since the last call may take the whole buffer. -/
def unread (buf : Bytes) : ℕ := buf.count lf + if buf = [] then 0 else 1

lemma unread_le (buf : Bytes) : unread buf ≤ buf.count lf + 1 := by
  unfold unread
  split <;> omega

lemma count_line (raw w : Bytes) : w.count lf < (raw ++ lf :: w).count lf := by
  rw [List.count_append, List.count_cons_self]
  omega

lemma unread_line (raw w : Bytes) : unread w < unread (raw ++ lf :: w) := by
  have hcount := count_line raw w
  have hw := unread_le w
  have hne : raw ++ lf :: w ≠ [] := by simp
  have hall : unread (raw ++ lf :: w) = (raw ++ lf :: w).count lf + 1 := by
    rw [unread, if_neg hne]
  omega

namespace Codec

lemma Decoding.count_le (h : c.Decoding buf o) : o.buffer.count lf ≤ buf.count lf := by
  cases h with
  | line raw rest h => exact h ▸ Nat.le_of_lt (count_line raw rest)
  | tooLong => exact Nat.le_refl _
  | pending hlim => exact Nat.le_refl _
  | panicked hlim => exact Nat.le_refl _

lemma Decoding.count_lt (h : c.Decoding buf o) (hnext : o.next? = some l) :
    o.buffer.count lf < buf.count lf := by
  cases h with
  | line raw rest h => exact h ▸ count_line raw rest
  | tooLong => cases hnext
  | pending hlim => cases hnext
  | panicked hlim => cases hnext

lemma DecodingEof.unread_le (h : c.DecodingEof buf o) : unread o.buffer ≤ unread buf := by
  cases h with
  | line raw rest h => exact h ▸ Nat.le_of_lt (unread_line raw rest)
  | tooLong => exact Nat.le_refl _
  | nothing h hlim => exact Nat.zero_le _
  | rest h => exact Nat.zero_le _
  | panicked hlim => exact Nat.le_refl _

lemma DecodingEof.unread_lt (h : c.DecodingEof buf o) (hnext : o.next? = some l) :
    unread o.buffer < unread buf := by
  cases h with
  | line raw rest h => exact h ▸ unread_line raw rest
  | tooLong => cases hnext
  | nothing h hlim => cases hnext
  | panicked hlim => cases hnext
  | rest h =>
    have hpos : 0 < unread buf := by
      rw [unread, if_neg h]
      exact Nat.succ_pos _
    exact hpos

end Codec

lemma lowers_decode : Lowers Codec.decode (List.count lf) where
  le c buf := (c.decoding buf).count_le
  lt c buf _ := (c.decoding buf).count_lt

lemma lowers_decodeEof : Lowers Codec.decodeEof unread where
  le c buf := (c.decodingEof buf).unread_le
  lt c buf _ := (c.decodingEof buf).unread_lt

/-! ### Commands -/

/-- `decodeCommand`, within `n` calls. -/
def decodeCommandWithin (n : ℕ) (w : Bytes) : Option (Result Fault Command) :=
  (within Codec.decodeEof n {} w []).map fun s =>
    match linesRead s.read s.last with
    | .error f => .error f
    | .panicked => .panicked
    | .ok ls => if h : ls ≠ [] then .ok ⟨ls, h⟩ else .error .noLines

/-- `readOn`, within `n` calls for all of its loops. -/
def Codec.readOnWithin (n : ℕ) (c : Codec) (buf : Bytes) (read : List Line) (taken : ℕ)
    (arrivals : List Arrival) : Option (Reading (Option Command) × Codec) :=
  match within Codec.decode n c buf read with
  | none => none
  | some s => match drained s.read s.last with
    | .pending read c buf =>
      let ended := (within Codec.decodeEof s.spare c buf read).map fun t =>
        let d := drainedEof t.read t.last
        ((⟨.done d.answer, taken⟩, d.codec) : Reading (Option Command) × Codec)
      match arrivals with
      | [] => ended
      | .bytes w :: rest =>
        if w = [] then ended else c.readOnWithin s.spare (buf ++ w) read (taken + w.length) rest
      | .fault e :: _ => some (⟨.done (.error (.io e)), taken⟩, c)
      | .silence :: _ => some (⟨.waiting, taken⟩, c)
    | d => some (⟨.done d.answer, taken⟩, d.codec)

/-- `readCommand`, within `n` calls. -/
def Codec.readCommandWithin (n : ℕ) (c : Codec) (arrivals : List Arrival) :
    Option (Reading (Option Command) × Codec) :=
  c.readOnWithin n [] [] 0 arrivals

/-- The bytes of all reads, also of those after the end. -/
def allBytes : List Arrival → Bytes
  | [] => []
  | .bytes w :: rest => w ++ allBytes rest
  | _ :: rest => allBytes rest

lemma decodeCommandWithin_eq (w : Bytes) :
    decodeCommandWithin (w.count lf + 2) w = some (decodeCommand w) := by
  have hn : unread w < w.count lf + 2 := Nat.lt_succ_of_le (unread_le w)
  obtain ⟨s, hs, -⟩ := exists_within lowers_decodeEof hn {} []
  have hall : ({} : Codec).readAll w [] = linesRead s.read s.last := loops_readAll.eq_out hs
  rw [decodeCommandWithin, hs, decodeCommand, hall]
  rfl

lemma buffer_of_drained {c' : Codec} {rest : Bytes} {read' : List Line}
    (h : drained read o = .pending read' c' rest) : o.buffer = rest := by
  unfold drained at h
  split at h <;> cases h
  rfl

/-- Each read pays for one call that takes no line, and the end of the stream for two. -/
lemma readOnWithin_eq {n : ℕ} (c : Codec) (buf : Bytes) (read : List Line) (taken : ℕ)
    (as : List Arrival)
    (hn : buf.count lf + (allBytes as).count lf + as.length + 3 ≤ n) :
    c.readOnWithin n buf read taken as = some (c.readOn buf read taken as) := by
  have hbuf : buf.count lf < n := by omega
  obtain ⟨s, hs, hspare⟩ := exists_within lowers_decode hbuf c read
  have hdrain : c.drain buf read = drained s.read s.last := loops_drain.eq_out hs
  rw [Codec.readOnWithin.eq_def, Codec.readOn.eq_def, hs, hdrain]
  dsimp only
  cases hd : drained s.read s.last with
  | closed ls c' => rfl
  | failed f c' => rfl
  | panicked c' => rfl
  | pending ls c' rest =>
    rw [buffer_of_drained hd] at hspare
    have hunread := unread_le rest
    have hrest : unread rest < s.spare := by omega
    obtain ⟨t, ht, -⟩ := exists_within lowers_decodeEof hrest c' ls
    have hend : c'.drainEof rest ls = drainedEof t.read t.last := loops_drainEof.eq_out ht
    simp only [ht, hend, Option.map_some]
    rcases as with _ | ⟨w | e | _, as⟩
    · rfl
    · by_cases hw : w = []
      · simp only [hw, if_true]
      · simp only [hw, if_false]
        refine readOnWithin_eq c' (rest ++ w) ls (taken + w.length) as ?_
        simp only [allBytes, List.count_append, List.length_cons] at hn ⊢
        omega
    · rfl
    · rfl

/-- **The codec makes progress from any state.** Every access to the buffer is in range. A call
takes some bytes off the front of the buffer, or it halts and leaves the buffer as it is; at the
end of the bytes it says that there is no line only if the buffer is empty; and it panics only with
the largest limit. So each loop on a buffer ends within as many calls as the buffer has line feeds,
and two more, and reading a command from a stream within as many as it brings line feeds and has
reads, and three more. -/
theorem calls_progress (c : Codec) :
    (∀ buf,
      (c.decodeChecked buf = some (c.decode buf) ∧
        c.decodeEofChecked buf = some (c.decodeEof buf)) ∧
      ((c.decode buf).Progress buf ∧ (c.decodeEof buf).Progress buf) ∧
      ((c.decodeEof buf).answer = .ok none ↔ buf = [] ∧ c.limit.toNat + 1 < UInt64.size) ∧
      ((c.decode buf).answer = .panicked ∨ (c.decodeEof buf).answer = .panicked →
        c.limit.toNat + 1 = UInt64.size)) ∧
    (∀ buf read,
      (within Codec.decode (buf.count lf + 2) c buf read).map (fun s => drained s.read s.last) =
        some (c.drain buf read) ∧
      (within Codec.decodeEof (buf.count lf + 2) c buf read).map
        (fun s => drainedEof s.read s.last) = some (c.drainEof buf read)) ∧
    (∀ w, decodeCommandWithin (w.count lf + 2) w = some (decodeCommand w)) ∧
    ∀ as, c.readCommandWithin ((allBytes as).count lf + as.length + 3) as =
      some (c.readCommand as) := by
  refine ⟨fun buf => ⟨⟨c.decodeChecked_eq buf, c.decodeEofChecked_eq buf⟩,
      ⟨(c.decoding buf).progress, (c.decodingEof buf).progress⟩, c.decodeEof_eq_none_iff buf,
      fun hpanic => ?_⟩,
    fun buf read => ⟨?_, ?_⟩, decodeCommandWithin_eq, fun as => ?_⟩
  · refine (below_or_largest c.limit).resolve_left ?_
    exact hpanic.elim (c.decoding buf).largest (c.decodingEof buf).largest
  · exact loops_drain.map_within lowers_decode (by omega)
  · exact loops_drainEof.map_within lowers_decodeEof (Nat.lt_succ_of_le (unread_le buf))
  · exact readOnWithin_eq c [] [] 0 as (by simp)

/-- A state left over from another buffer can resume behind a line feed, which then stands in the
line that is taken. -/
example : ({ resume := 2 } : Codec).decode [97, 10, 98, 10, 99] =
    ⟨.error (.broken ⟨1⟩), { resume := 0 }, [99]⟩ := by
  rfl

end LinkCourier.Framing
