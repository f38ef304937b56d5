import Mathlib.Data.List.Basic
import LinkCourier.Proofs.Framing.Resume
import LinkCourier.Proofs.Framing.RoundTrip

/-!
A codec and its buffer as a queue of lines. Lines that are written behind those that are waiting
come out in their order, each without the white space at its end, and none is left out.
-/

namespace LinkCourier.Framing

/-- A line that is not over the limit is written, or a line is taken. -/
def Move.Fits (limit : UInt64) : Move → Prop
  | .encode l => l.byteLength ≤ limit.toNat
  | .decode => True
  | _ => False

instance (limit : UInt64) : (m : Move) → Decidable (m.Fits limit)
  | .encode l => inferInstanceAs (Decidable (l.byteLength ≤ limit.toNat))
  | .decode => inferInstanceAs (Decidable True)
  | .append _ | .decodeEof | .clone => inferInstanceAs (Decidable False)

/-- The lines that are written, in order. -/
def encoded (ms : List Move) : List Line :=
  ms.filterMap fun
    | .encode l => some l
    | _ => none

/-- The lines that have been taken, in order. -/
def decoded (ks : List Call) : List Line :=
  ks.filterMap fun k => match k.answer with
    | .ok o => o
    | .error _ => none
    | .panicked => none

lemma encoded_append (u v : List Move) : encoded (u ++ v) = encoded u ++ encoded v :=
  List.filterMap_append

lemma decoded_append (u v : List Call) : decoded (u ++ v) = decoded u ++ decoded v :=
  List.filterMap_append

variable {limit : UInt64} {c : Codec} {s : Session} {ls rest : List Line} {l : Line} {m : Move}
  {ms : List Move}

/-! ### One call -/

lemma decode_encoded (h : c.Scanned ((l :: rest).flatMap encodeLine))
    (hl : l.byteLength ≤ c.limit.toNat) :
    c.decode ((l :: rest).flatMap encodeLine) =
      ⟨.ok (some l.trimEnd), c.rewind, rest.flatMap encodeLine⟩ := by
  rw [List.flatMap_cons, encodeLine_append] at h ⊢
  rw [Codec.decode_line h (lf_notMem_written l), answerFor, readLine_written,
    if_neg (Nat.not_lt.2 hl)]

/-! ### A whole run -/

/-- Of the lines written so far the first ones have been taken, and the others are in the
buffer. -/
structure Session.Waiting (limit : UInt64) (s : Session) (ls front rest : List Line) : Prop where
  limit_eq : s.codec.limit = limit
  scanned : s.codec.Scanned s.buffer
  split : ls = front ++ rest
  fits : ∀ l ∈ rest, l.byteLength ≤ limit.toNat
  answered : limit.toNat + 1 < UInt64.size → ∀ k ∈ s.calls, ∃ o, k.answer = .ok o
  decoded_eq : decoded s.calls = front.map Line.trimEnd
  buffer_eq : s.buffer = rest.flatMap encodeLine

namespace Session.Waiting

variable {front : List Line}

lemma encode (h : s.Waiting limit ls front rest) (hl : l.byteLength ≤ limit.toNat) :
    (s.step (.encode l)).Waiting limit (ls ++ [l]) front (rest ++ [l]) where
  limit_eq := h.limit_eq
  scanned := h.scanned.append (encodeLine l)
  split := by rw [h.split, List.append_assoc]
  fits := by
    intro k hk
    rcases List.mem_append.1 hk with hk | hk
    · exact h.fits k hk
    · rwa [List.mem_singleton.1 hk]
  answered := h.answered
  decoded_eq := h.decoded_eq
  buffer_eq := by
    have hbuffer : (s.step (.encode l)).buffer = s.buffer ++ encodeLine l := rfl
    rw [hbuffer, h.buffer_eq, List.flatMap_append, List.flatMap_singleton]

/-- The next call takes the first line that is waiting. -/
lemma decode_cons (h : s.Waiting limit ls front (l :: rest)) :
    s.codec.decode s.buffer =
      ⟨.ok (some l.trimEnd), s.codec.rewind, rest.flatMap encodeLine⟩ := by
  have hscanned := h.scanned
  rw [h.buffer_eq] at hscanned ⊢
  have hl : l.byteLength ≤ s.codec.limit.toNat := by
    rw [h.limit_eq]
    exact h.fits l List.mem_cons_self
  exact decode_encoded hscanned hl

lemma buffer_nil (h : s.Waiting limit ls front []) : s.buffer = [] := h.buffer_eq

/-- A call with no line waiting says so, unless the limit is the largest one. -/
lemma decode_nil (hlim : limit.toNat + 1 < UInt64.size) (h : s.Waiting limit ls front []) :
    s.codec.decode s.buffer = ⟨.ok none, s.codec.rewind, []⟩ := by
  rw [h.buffer_nil]
  exact Codec.decode_nil (by rwa [h.limit_eq])

lemma next (hlim : limit.toNat + 1 < UInt64.size) (h : s.Waiting limit ls front rest) :
    (s.codec.decode s.buffer).answer = .ok (rest.head?.map Line.trimEnd) := by
  cases rest with
  | nil => rw [h.decode_nil hlim]; rfl
  | cons l rest => rw [h.decode_cons]; rfl

/-- A call that takes no line off an empty buffer leaves everything waiting as it was. -/
lemma record_nil {o : Outcome} (h : s.Waiting limit ls front []) (hlimit : o.codec.limit = limit)
    (hbuffer : o.buffer = []) (hscanned : o.codec.Scanned o.buffer)
    (hnone : decoded [o.call s.buffer] = [])
    (hok : limit.toNat + 1 < UInt64.size → ∃ a, o.answer = .ok a) :
    (s.record o).Waiting limit ls front [] where
  limit_eq := hlimit
  scanned := hscanned
  split := h.split
  fits := h.fits
  answered hlim k hk := by
    rcases List.mem_append.1 hk with hk | hk
    · exact h.answered hlim k hk
    · rw [List.mem_singleton.1 hk]
      exact hok hlim
  decoded_eq := by
    have hcalls : (s.record o).calls = s.calls ++ [o.call s.buffer] := rfl
    rw [hcalls, decoded_append, hnone, List.append_nil, h.decoded_eq]
  buffer_eq := hbuffer

lemma record_cons (h : s.Waiting limit ls front (l :: rest)) :
    (s.record ⟨.ok (some l.trimEnd), s.codec.rewind, rest.flatMap encodeLine⟩).Waiting limit ls
      (front ++ [l]) rest where
  limit_eq := h.limit_eq
  scanned := Codec.scanned_rewind s.codec _
  split := by rw [h.split, List.append_assoc, List.singleton_append]
  fits k hk := h.fits k (List.mem_cons_of_mem l hk)
  answered hlim k hk := by
    rcases List.mem_append.1 hk with hk | hk
    · exact h.answered hlim k hk
    · rw [List.mem_singleton.1 hk]
      exact ⟨_, rfl⟩
  decoded_eq := by
    have hcalls (o : Outcome) : (s.record o).calls = s.calls ++ [o.call s.buffer] := rfl
    rw [hcalls, decoded_append, h.decoded_eq, List.map_append]
    rfl
  buffer_eq := rfl

lemma decode (h : s.Waiting limit ls front rest) :
    ∃ front rest, (s.step .decode).Waiting limit ls front rest := by
  have hstep : s.step .decode = s.record (s.codec.decode s.buffer) := rfl
  rw [hstep]
  cases rest with
  | cons l rest =>
    rw [h.decode_cons]
    exact ⟨_, _, h.record_cons⟩
  | nil =>
    refine ⟨front, [], ?_⟩
    by_cases hlim : limit.toNat + 1 < UInt64.size
    · rw [h.decode_nil hlim]
      exact h.record_nil h.limit_eq rfl (Codec.scanned_rewind s.codec []) rfl fun _ => ⟨none, rfl⟩
    · have hmax : ¬ s.codec.limit.toNat + 1 < UInt64.size := by rwa [h.limit_eq]
      have hscanned := h.scanned
      rw [h.buffer_nil] at hscanned
      have hnone : decoded [(⟨.panicked, s.codec, []⟩ : Outcome).call s.buffer] = [] := rfl
      have hpanic : s.codec.decode s.buffer = ⟨.panicked, s.codec, []⟩ := by
        rw [h.buffer_nil, Codec.decode_largest hmax List.not_mem_nil]
      rw [hpanic]
      exact h.record_nil h.limit_eq rfl hscanned hnone fun h => absurd h hlim

lemma step (h : s.Waiting limit ls front rest) (hm : m.Fits limit) :
    ∃ front rest, (s.step m).Waiting limit (ls ++ encoded [m]) front rest := by
  cases m with
  | encode l => exact ⟨_, _, h.encode hm⟩
  | decode =>
    have hnone : encoded [.decode] = [] := rfl
    rw [hnone, List.append_nil]
    exact h.decode
  | append _ | decodeEof | clone => exact hm.elim

lemma run (h : s.Waiting limit ls front rest) (hms : ∀ m ∈ ms, m.Fits limit) :
    ∃ front rest, (s.run ms).Waiting limit (ls ++ encoded ms) front rest := by
  induction ms generalizing s ls front rest with
  | nil =>
    have hnone : encoded [] = [] := rfl
    rw [hnone, List.append_nil]
    exact ⟨front, rest, h⟩
  | cons m ms ih =>
    obtain ⟨hm, hms⟩ := List.forall_mem_cons.1 hms
    obtain ⟨front, rest, hnext⟩ := h.step hm
    have hall : ls ++ encoded (m :: ms) = ls ++ encoded [m] ++ encoded ms := by
      rw [List.append_assoc, ← encoded_append, List.singleton_append]
    rw [hall]
    exact ih hnext hms

end Session.Waiting

/-- **First in, first out.** Lines that are not over the limit are written and taken in any order
of the calls. The lines that have been taken are the first ones that have been written, without the
white space at their ends, and the others are in the buffer as they have been written. Unless the
limit is the largest one, no call fails, and the next call takes the first of the lines that are
left, or none if there are none. -/
theorem session_fifo (hms : ∀ m ∈ ms, m.Fits limit) :
    let s := ({ codec := { limit } } : Session).run ms
    let n := (decoded s.calls).length
    decoded s.calls = ((encoded ms).take n).map Line.trimEnd ∧
      s.buffer = ((encoded ms).drop n).flatMap encodeLine ∧
      (limit.toNat + 1 < UInt64.size →
        (∀ k ∈ s.calls, ∃ o, k.answer = .ok o) ∧
        (s.codec.decode s.buffer).answer = .ok ((encoded ms)[n]?.map Line.trimEnd) ∧
        ((s.codec.decode s.buffer).answer = .ok none ↔ n = (encoded ms).length)) := by
  intro s n
  have hstart : ({ codec := { limit } } : Session).Waiting limit [] [] [] :=
    ⟨rfl, Codec.scanned_of_resume rfl [], rfl, by simp, by simp, rfl, rfl⟩
  obtain ⟨front, rest, h⟩ := hstart.run hms
  rw [List.nil_append] at h
  have hn : n = front.length := by
    have hlength := congrArg List.length h.decoded_eq
    rwa [List.length_map] at hlength
  have htake : (encoded ms).take n = front := by rw [hn, h.split, List.take_left]
  have hdrop : (encoded ms).drop n = rest := by rw [hn, h.split, List.drop_left]
  have hle : n ≤ (encoded ms).length := by
    rw [h.split, List.length_append, hn]
    omega
  refine ⟨?_, ?_, fun hlim => ?_⟩
  · rw [htake]
    exact h.decoded_eq
  · rw [hdrop]
    exact h.buffer_eq
  · have hnext : (s.codec.decode s.buffer).answer = .ok ((encoded ms)[n]?.map Line.trimEnd) := by
      have hhead : (encoded ms)[n]? = rest.head? := by rw [← hdrop, List.head?_drop]
      rw [h.next hlim, hhead]
    refine ⟨h.answered hlim, hnext, ?_⟩
    rw [hnext, Result.ok.injEq, Option.map_eq_none_iff, List.getElem?_eq_none_iff]
    omega

/-- A blank line and an empty one, a line at the limit, and a call on an empty buffer in between. -/
theorem session_fifo_blank :
    let ms : List Move := [.encode ⟨"ab".toList, Line.unbroken_of_any rfl⟩, .decode, .decode,
      .encode ⟨" \t".toList, Line.unbroken_of_any rfl⟩, .encode ⟨[], Line.unbroken_of_any rfl⟩,
      .decode, .encode ⟨"é".toList, Line.unbroken_of_any rfl⟩, .decode]
    let s := ({ codec := { limit := 2 } } : Session).run ms
    (∀ m ∈ ms, m.Fits 2) ∧ (2 : UInt64).toNat + 1 < UInt64.size ∧ s.calls.length = 4 ∧
      (decoded s.calls).map Line.text = [['a', 'b'], [], []] ∧ s.buffer = [195, 169, 13, 10] ∧
      (s.codec.decode s.buffer).answer = .ok (some ⟨['é'], Line.unbroken_of_any rfl⟩) := by
  intro ms s
  have hms : ∀ m ∈ ms, m.Fits 2 := by decide
  have hn : (decoded s.calls).length = 3 := by decide +kernel
  have hlim : (2 : UInt64).toNat + 1 < UInt64.size := by decide
  obtain ⟨hdecoded, hbuffer, hcalls⟩ := session_fifo hms
  obtain ⟨-, hnext, -⟩ := hcalls hlim
  rw [hn] at hdecoded hbuffer hnext
  refine ⟨hms, hlim, by decide +kernel, ?_, hbuffer.trans (by decide), hnext.trans (by decide)⟩
  rw [hdecoded]
  decide

end LinkCourier.Framing
