import Mathlib.Data.List.Basic
import LinkCourier.Proofs.Framing.Codec

/-!
A codec in use: bytes and lines are put at the end of its buffer and lines are taken off its
front, in any order and also after faults. Where it resumes its search makes no difference: it
does what one would do that has no memory and looks for every line feed from the first byte.
No byte is lost and none is taken twice.
-/

namespace LinkCourier.Framing

/-- What is done with a codec and its buffer. -/
inductive Move where
  | append (w : Bytes)
  | encode (l : Line)
  | decode
  | decodeEof
  | clone

/-- What a move puts at the end of the buffer. -/
def Move.added : Move → Bytes
  | .append w => w
  | .encode l => encodeLine l
  | _ => []

/-- A call that takes a line off a buffer: its answer, the bytes it has taken and those it
leaves. -/
structure Call where
  answer : Result Fault (Option Line)
  taken : Bytes
  left : Bytes

def Outcome.call (o : Outcome) (buf : Bytes) : Call :=
  ⟨o.answer, buf.take (buf.length - o.buffer.length), o.buffer⟩

/-- The bytes of some calls, one after the other. -/
def consumed (ks : List Call) : Bytes := ks.flatMap Call.taken

/-- Everything that some moves put at the end of the buffer. -/
def added (ms : List Move) : Bytes := ms.flatMap Move.added

/-! ### The codec -/

/-- A codec and its buffer, and the calls so far. -/
structure Session where
  codec : Codec
  buffer : Bytes := []
  calls : List Call := []

/-- A copy has the limit of the codec and resumes where it does. -/
def Codec.clone (c : Codec) : Codec := ⟨c.limit, c.resume⟩

namespace Session

def record (s : Session) (o : Outcome) : Session :=
  ⟨o.codec, o.buffer, s.calls ++ [o.call s.buffer]⟩

def step (s : Session) : Move → Session
  | .append w => { s with buffer := s.buffer ++ w }
  | .encode l => { s with buffer := s.codec.encode l s.buffer }
  | .decode => s.record (s.codec.decode s.buffer)
  | .decodeEof => s.record (s.codec.decodeEof s.buffer)
  | .clone => { s with codec := s.codec.clone }

def run (s : Session) (ms : List Move) : Session := ms.foldl step s

end Session

/-! ### Looking from the first byte -/

/-- Takes the first line off a buffer, looking for its line feed from the first byte. -/
def firstLine (limit : UInt64) (buf : Bytes) : Call :=
  match buf.findIdx? (· == lf) with
  | some i => ⟨answerFor limit (buf.take i), buf.take (i + 1), buf.drop (i + 1)⟩
  | none =>
    ⟨if limit.toNat + 1 < buf.length then .error (.pendingTooLong limit) else .ok none, [], buf⟩

/-- Takes the first line off a buffer to which nothing will be added. -/
def firstLineEof (limit : UInt64) (buf : Bytes) : Call :=
  match firstLine limit buf with
  | ⟨.ok none, _, _⟩ =>
    if buf = [] then ⟨.ok none, [], []⟩ else ⟨answerFor limit buf, buf, []⟩
  | k => k

/-- A buffer, and the calls so far. -/
structure Search where
  buffer : Bytes := []
  calls : List Call := []

namespace Search

def record (s : Search) (k : Call) : Search := ⟨k.left, s.calls ++ [k]⟩

def step (limit : UInt64) (s : Search) : Move → Search
  | .append w => { s with buffer := s.buffer ++ w }
  | .encode l => { s with buffer := s.buffer ++ encodeLine l }
  | .decode => s.record (firstLine limit s.buffer)
  | .decodeEof => s.record (firstLineEof limit s.buffer)
  | .clone => s

def run (limit : UInt64) (s : Search) (ms : List Move) : Search := ms.foldl (step limit) s

end Search

variable {limit : UInt64} {raw w buf : Bytes} {c : Codec}

/-! ### One call -/

lemma firstLine_line (h : lf ∉ raw) : firstLine limit (raw ++ lf :: w) =
    ⟨answerFor limit raw, raw ++ [lf], w⟩ := by
  have htake : (raw ++ lf :: w).take (raw.length + 1) = raw ++ [lf] := by
    rw [List.take_length_add_append]
    rfl
  rw [firstLine, Codec.findIdx?_lf h]
  simp [htake]

lemma firstLine_pending (h : lf ∉ buf) : firstLine limit buf =
    ⟨if limit.toNat + 1 < buf.length then .error (.pendingTooLong limit) else .ok none, [],
      buf⟩ := by
  rw [firstLine, Codec.findIdx?_eq_none h]

lemma firstLineEof_line (h : lf ∉ raw) : firstLineEof limit (raw ++ lf :: w) =
    ⟨answerFor limit raw, raw ++ [lf], w⟩ := by
  rw [firstLineEof, firstLine_line h, answerFor]
  rcases readLine limit raw with f | l <;> rfl

lemma firstLineEof_pending (h : lf ∉ buf) : firstLineEof limit buf =
    if limit.toNat + 1 < buf.length then ⟨.error (.pendingTooLong limit), [], buf⟩
    else if buf = [] then ⟨.ok none, [], []⟩
    else ⟨answerFor limit buf, buf, []⟩ := by
  rw [firstLineEof, firstLine_pending h]
  by_cases hlong : limit.toNat + 1 < buf.length
  · simp only [hlong, if_true]
  · simp only [hlong, if_false]

/-- A buffer begins with a line, or is pending as a whole. -/
lemma line_or_pending (buf : Bytes) : (∃ raw w, buf = raw ++ lf :: w ∧ lf ∉ raw) ∨ lf ∉ buf := by
  by_cases h : lf ∈ buf
  · exact .inl (List.eq_append_cons_of_mem h)
  · exact .inr h

/-- **No byte is lost** by a call and none is taken twice. -/
lemma firstLine_taken_left (limit : UInt64) (buf : Bytes) :
    (firstLine limit buf).taken ++ (firstLine limit buf).left = buf := by
  rcases line_or_pending buf with ⟨raw, w, rfl, hraw⟩ | h
  · rw [firstLine_line hraw]
    simp
  · rw [firstLine_pending h]
    rfl

lemma firstLineEof_taken_left (limit : UInt64) (buf : Bytes) :
    (firstLineEof limit buf).taken ++ (firstLineEof limit buf).left = buf := by
  rcases line_or_pending buf with ⟨raw, w, rfl, hraw⟩ | h
  · rw [firstLineEof_line hraw]
    simp
  · rw [firstLineEof_pending h]
    split_ifs with hlong hnil
    · rfl
    · exact hnil.symm
    · exact List.append_nil buf

/-- What a call of the codec comes to: that of a search from the first byte. It keeps the limit
and what is known of the buffer. -/
structure Outcome.Like (o : Outcome) (c : Codec) (buf : Bytes) (k : Call) : Prop where
  call_eq : o.call buf = k
  limit_eq : o.codec.limit = c.limit
  scanned : o.codec.Scanned o.buffer

lemma call_line (a : Result Fault (Option Line)) (c : Codec) (raw w : Bytes) :
    (⟨a, c, w⟩ : Outcome).call (raw ++ lf :: w) = ⟨a, raw ++ [lf], w⟩ := by
  have hlen : (raw ++ lf :: w).length - w.length = (raw ++ [lf]).length := by
    simp only [List.length_append, List.length_cons, List.length_nil]
    omega
  have happ : raw ++ lf :: w = (raw ++ [lf]) ++ w := by simp
  rw [Outcome.call, hlen, happ, List.take_left]

lemma call_untouched (a : Result Fault (Option Line)) (c : Codec) (buf : Bytes) :
    (⟨a, c, buf⟩ : Outcome).call buf = ⟨a, [], buf⟩ := by
  simp [Outcome.call]

lemma call_all (a : Result Fault (Option Line)) (c : Codec) (buf : Bytes) :
    (⟨a, c, []⟩ : Outcome).call buf = ⟨a, buf, []⟩ := by
  simp [Outcome.call]

lemma decode_like (hlim : c.limit.toNat + 1 < UInt64.size) (h : c.Scanned buf) :
    (c.decode buf).Like c buf (firstLine c.limit buf) := by
  rcases line_or_pending buf with ⟨raw, w, rfl, hraw⟩ | hbuf
  · rw [Codec.decode_line h hraw, firstLine_line hraw]
    exact ⟨call_line _ _ _ _, rfl, Codec.scanned_rewind c w⟩
  · rw [Codec.decode_pending hlim hbuf, firstLine_pending hbuf]
    by_cases hlong : c.limit.toNat + 1 < buf.length
    · simp only [hlong, if_true]
      exact ⟨call_untouched _ _ _, rfl, h⟩
    · simp only [hlong, if_false]
      exact ⟨call_untouched _ _ _, rfl, Nat.le_refl _, by rwa [List.take_length]⟩

lemma decodeEof_like (hlim : c.limit.toNat + 1 < UInt64.size) (h : c.Scanned buf) :
    (c.decodeEof buf).Like c buf (firstLineEof c.limit buf) := by
  rcases line_or_pending buf with ⟨raw, w, rfl, hraw⟩ | hbuf
  · rw [Codec.decodeEof_line h hraw, firstLineEof_line hraw]
    exact ⟨call_line _ _ _ _, rfl, Codec.scanned_rewind c w⟩
  · rw [Codec.decodeEof_pending hlim hbuf, firstLineEof_pending hbuf]
    by_cases hlong : c.limit.toNat + 1 < buf.length
    · simp only [hlong, if_true]
      exact ⟨call_untouched _ _ _, rfl, h⟩
    · by_cases hnil : buf = []
      · subst hnil
        exact ⟨call_untouched _ _ _, rfl, Codec.scanned_rewind c []⟩
      · simp only [hlong, hnil, if_false]
        exact ⟨call_all _ _ _, rfl, Codec.scanned_rewind c []⟩

/-! ### A whole run -/

/-- The codec has made the calls that a search makes, and has looked at no line feed of its
buffer. -/
structure Session.Agrees (limit : UInt64) (s : Session) (t : Search) : Prop where
  limit_eq : s.codec.limit = limit
  buffer_eq : s.buffer = t.buffer
  calls_eq : s.calls = t.calls
  scanned : s.codec.Scanned s.buffer

lemma Session.Agrees.record {s : Session} {t : Search} {o : Outcome} {k : Call}
    (h : s.Agrees limit t) (ho : o.Like s.codec s.buffer k) :
    (s.record o).Agrees limit (t.record k) where
  limit_eq := ho.limit_eq.trans h.limit_eq
  buffer_eq := congrArg Call.left ho.call_eq
  calls_eq := congrArg₂ (· ++ [·]) h.calls_eq ho.call_eq
  scanned := ho.scanned

lemma Session.Agrees.step (hlim : limit.toNat + 1 < UInt64.size) {s : Session} {t : Search}
    (h : s.Agrees limit t) (m : Move) : (s.step m).Agrees limit (t.step limit m) := by
  have hlim' : s.codec.limit.toNat + 1 < UInt64.size := by rwa [h.limit_eq]
  cases m with
  | append w =>
    exact ⟨h.limit_eq, congrArg (· ++ w) h.buffer_eq, h.calls_eq, h.scanned.append w⟩
  | encode l =>
    exact ⟨h.limit_eq, congrArg (· ++ encodeLine l) h.buffer_eq, h.calls_eq,
      h.scanned.append (encodeLine l)⟩
  | decode =>
    have hlike := decode_like hlim' h.scanned
    rw [h.limit_eq] at hlike
    exact h.record (h.buffer_eq ▸ hlike)
  | decodeEof =>
    have hlike := decodeEof_like hlim' h.scanned
    rw [h.limit_eq] at hlike
    exact h.record (h.buffer_eq ▸ hlike)
  | clone => exact ⟨h.limit_eq, h.buffer_eq, h.calls_eq, h.scanned⟩

lemma Session.Agrees.run (hlim : limit.toNat + 1 < UInt64.size) {s : Session} {t : Search}
    (h : s.Agrees limit t) (ms : List Move) : (s.run ms).Agrees limit (t.run limit ms) := by
  induction ms generalizing s t with
  | nil => exact h
  | cons m ms ih => exact ih (h.step hlim m)

lemma Search.consumed_record {t : Search} {k : Call} (h : k.taken ++ k.left = t.buffer) :
    consumed (t.record k).calls ++ (t.record k).buffer = consumed t.calls ++ t.buffer := by
  simp [Search.record, consumed, ← h]

lemma Search.consumed_step (limit : UInt64) (t : Search) (m : Move) :
    consumed (t.step limit m).calls ++ (t.step limit m).buffer =
      consumed t.calls ++ t.buffer ++ m.added := by
  cases m with
  | append w => exact (List.append_assoc _ _ _).symm
  | encode l => exact (List.append_assoc _ _ _).symm
  | decode =>
    exact (consumed_record (firstLine_taken_left limit t.buffer)).trans (List.append_nil _).symm
  | decodeEof =>
    exact (consumed_record (firstLineEof_taken_left limit t.buffer)).trans (List.append_nil _).symm
  | clone => exact (List.append_nil _).symm

lemma Search.consumed_run (limit : UInt64) (t : Search) (ms : List Move) :
    consumed (t.run limit ms).calls ++ (t.run limit ms).buffer =
      consumed t.calls ++ t.buffer ++ added ms := by
  induction ms generalizing t with
  | nil => exact (List.append_nil _).symm
  | cons m ms ih =>
    have hrun : t.run limit (m :: ms) = (t.step limit m).run limit ms := rfl
    rw [hrun, ih, consumed_step, List.append_assoc]
    rfl

/-- **Resuming is looking from the first byte.** After any moves, every call of the codec has
had the answer, and has taken and left the bytes, of a search from the first byte; the codec
has looked at a part of its buffer, and there is no line feed in it; and what has been taken,
followed by the buffer, is what has been put into it. -/
theorem session_eq_search (hlim : limit.toNat + 1 < UInt64.size) (ms : List Move) :
    let s := ({ codec := { limit } } : Session).run ms
    let t := ({} : Search).run limit ms
    (s.calls = t.calls ∧ s.buffer = t.buffer) ∧ s.codec.Scanned s.buffer ∧
      consumed s.calls ++ s.buffer = added ms := by
  intro s t
  have hstart : ({ codec := { limit } } : Session).Agrees limit {} :=
    ⟨rfl, rfl, rfl, Codec.scanned_of_resume rfl []⟩
  have hagrees : s.Agrees limit t := hstart.run hlim ms
  have hbytes : consumed t.calls ++ t.buffer = added ms := Search.consumed_run limit {} ms
  refine ⟨⟨hagrees.calls_eq, hagrees.buffer_eq⟩, hagrees.scanned, ?_⟩
  rw [hagrees.calls_eq, hagrees.buffer_eq, hbytes]

/-- A pending line that is too long, waited for all the same, and a line that is written into the
buffer behind an unfinished one. -/
theorem session_eq_search_long :
    let ms : List Move := [.append [97, 98], .decode, .append [99, 100, 101, 102], .decode,
      .append [10, 118, 100], .decode, .decode, .clone,
      .encode ⟨['!'], Line.unbroken_of_any rfl⟩, .append [120], .decodeEof, .decodeEof]
    let s := ({ codec := { limit := 4 } } : Session).run ms
    let t := ({} : Search).run 4 ms
    (4 : UInt64).toNat + 1 < UInt64.size ∧
      s.calls.map Call.taken = [[], [], [97, 98, 99, 100, 101, 102, 10], [],
        [118, 100, 33, 13, 10], [120]] ∧
      (s.calls = t.calls ∧ s.buffer = t.buffer) ∧ s.codec.Scanned s.buffer ∧
      consumed s.calls ++ s.buffer = added ms := by
  intro ms s t
  have hlim : (4 : UInt64).toNat + 1 < UInt64.size := by decide
  exact ⟨hlim, by decide, session_eq_search hlim ms⟩

end LinkCourier.Framing
