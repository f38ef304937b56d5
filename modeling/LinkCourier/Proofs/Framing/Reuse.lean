import Mathlib.Data.List.Basic
import LinkCourier.Proofs.Framing.Reading

/-!
One codec for many streams. A call can leave it in the middle of a line: after a fault, or with
a line that is too long, it still knows how far it had looked. The next call begins by looking at
its own buffer, which is empty, so that it starts over whatever came before.
-/

namespace LinkCourier.Framing

namespace Codec

/-- The codec after reading from one stream after the other, each with a buffer of its own. -/
def after (c : Codec) (streams : List (List Arrival)) : Codec :=
  streams.foldl (fun c as => (c.readCommand as).2) c

variable {c c' : Codec} {buf rest : Bytes} {a : Result Fault (Option Line)}

/-! ### No call changes the limit -/

lemma limit_decode (h : c.decode buf = ⟨a, c', rest⟩) : c'.limit = c.limit := by
  have hcodec : (c.decode buf).codec.limit = c.limit := by
    unfold decode
    split
    · rfl
    · split
      · split <;> rfl
      · rfl
  rwa [h] at hcodec

lemma limit_decodeEof (h : c.decodeEof buf = ⟨a, c', rest⟩) : c'.limit = c.limit := by
  have hcodec : (c.decodeEof buf).codec.limit = c.limit := by
    unfold decodeEof
    split
    · rename_i c1 rest1 hd
      have hlimit : c1.limit = c.limit := limit_decode hd
      split <;> exact hlimit
    · exact limit_decode rfl
  rwa [h] at hcodec

lemma limit_drain (c : Codec) (buf : Bytes) (read : List Line) :
    (c.drain buf read).codec.limit = c.limit := by
  fun_induction Codec.drain c buf read with
  | case1 c buf read f c' rest h => exact limit_decode h
  | case2 c buf read c' rest h => exact limit_decode h
  | case3 c buf read c' rest h => exact limit_decode h
  | case4 c buf read l c' rest h hb => exact limit_decode h
  | case5 c buf read l c' rest h hb ih => exact ih.trans (limit_decode h)

lemma limit_drainEof (c : Codec) (buf : Bytes) (read : List Line) :
    (c.drainEof buf read).codec.limit = c.limit := by
  fun_induction Codec.drainEof c buf read with
  | case1 c buf read f c' rest h => exact limit_decodeEof h
  | case2 c buf read c' rest h => exact limit_decodeEof h
  | case3 c buf read c' rest h => exact limit_decodeEof h
  | case4 c buf read l c' rest h hb => exact limit_decodeEof h
  | case5 c buf read l c' rest h hb ih => exact ih.trans (limit_decodeEof h)

lemma limit_readOn (c : Codec) (buf : Bytes) (read : List Line) (taken : ℕ)
    (as : List Arrival) : (c.readOn buf read taken as).2.limit = c.limit := by
  have hdrain := limit_drain c buf read
  rw [readOn.eq_def]
  rcases hd : c.drain buf read with ⟨ls, c'⟩ | ⟨f, c'⟩ | ⟨ls, c', rest⟩ | ⟨c'⟩ <;>
    rw [hd] at hdrain
  · exact hdrain
  · exact hdrain
  rotate_left
  · exact hdrain
  have hend : (c'.drainEof rest ls).codec.limit = c.limit :=
    (limit_drainEof c' rest ls).trans hdrain
  rcases as with _ | ⟨w | e | _, as⟩
  · exact hend
  · by_cases hw : w = []
    · simp only [hw, if_true]
      exact hend
    · simp only [hw, if_false]
      exact (limit_readOn c' _ _ _ as).trans hdrain
  · exact hdrain
  · exact hdrain

lemma limit_after (c : Codec) (streams : List (List Arrival)) :
    (c.after streams).limit = c.limit := by
  induction streams generalizing c with
  | nil => rfl
  | cons as streams ih => exact (ih _).trans (limit_readOn c [] [] 0 as)

/-! ### A call starts over -/

/-- An empty buffer has been looked at up to its end, wherever the codec resumes. -/
lemma drain_nil {c : Codec} (hlim : c.limit.toNat + 1 < UInt64.size) (read : List Line) :
    c.drain [] read = .pending read c.rewind [] := by
  rw [drain_eq, decode_nil hlim]

/-- **Where the codec resumes makes no difference** to a call with a buffer of its own. -/
lemma readCommand_rewind {c : Codec} (hlim : c.limit.toNat + 1 < UInt64.size)
    (as : List Arrival) : c.rewind.readCommand as = c.readCommand as := by
  have hrewind : c.rewind.limit.toNat + 1 < UInt64.size := hlim
  rw [readCommand, readCommand, readOn.eq_def, readOn.eq_def c, drain_nil hlim, drain_nil hrewind]
  rfl

/-- With the largest limit no call comes back, and none leaves a trace. -/
lemma after_largest {c : Codec} (hmax : ¬ c.limit.toNat + 1 < UInt64.size)
    (streams : List (List Arrival)) : c.after streams = c := by
  induction streams with
  | nil => rfl
  | cons as streams ih =>
    have hafter : c.after (as :: streams) = (c.readCommand as).2.after streams := rfl
    rw [hafter, readCommand_largest hmax, ih]

end Codec

/-- **A codec can be used again**: after any streams, and however the calls on them have ended,
the next call is that of a codec that has not been used. -/
theorem readCommand_after (limit : UInt64) (streams : List (List Arrival)) (as : List Arrival) :
    (({ limit } : Codec).after streams).readCommand as = ({ limit } : Codec).readCommand as := by
  by_cases hlim : limit.toNat + 1 < UInt64.size
  · have hlimit := Codec.limit_after { limit } streams
    have hrewind : (({ limit } : Codec).after streams).rewind = { limit } := by
      rw [Codec.rewind, hlimit]
    rw [← Codec.readCommand_rewind (hlimit ▸ hlim), hrewind]
  · rw [Codec.after_largest hlim]

/-- A call can leave a trace: after a fault in the middle of a line the codec still resumes where
that line was cut off. -/
example : (({ limit := 8 } : Codec).after
    [[.bytes [108, 115], .fault (.plain .connectionReset)]]).resume = 2 := by
  decide +kernel

end LinkCourier.Framing
