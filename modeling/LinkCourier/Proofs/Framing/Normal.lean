import Mathlib.Data.List.Basic
import LinkCourier.Proofs.Framing.Carries
import LinkCourier.Proofs.Framing.Grammar
import LinkCourier.Proofs.Framing.RoundTrip

/-!
Normal lines. Reading leaves a line with something in it, without white space at its end and
within the limit. Such a line is written and read again as it is, so that reading what has been
read and written, in whatever pieces, changes nothing any more.
-/

namespace LinkCourier.Framing

/-- What reading makes of a line, and leaves as it is the next time. -/
structure Normal (limit : ℕ) (l : Line) : Prop where
  notBlank : l.isBlank = false
  unbroken : '\r' ∉ l.text ∧ '\n' ∉ l.text
  trimmed : ∀ c ∈ l.text.getLast?, Text.isBlank c = false
  fits : l.byteLength ≤ limit

variable {limit : UInt64} {raw w : Bytes} {raws : List Bytes} {l : Line} {ls : List Line}

lemma byteLength_trimEnd_le (t : Text) : Text.byteLength (Text.trimEnd t) ≤ Text.byteLength t := by
  obtain ⟨u, hu⟩ := Text.trimEnd_isPrefix t
  have hlen : Text.byteLength (Text.trimEnd t ++ u) = Text.byteLength t := by rw [hu]
  rw [Text.byteLength_append] at hlen
  omega

lemma notMem_of_isBreak {c : Char} (h : isBreak c = true) (l : Line) : c ∉ l.text := by
  intro hc
  have hno := l.unbroken c hc
  rw [h] at hno
  exact Bool.noConfusion hno

/-! ### What is read is normal -/

lemma normal_of_readLine (h : readLine limit raw = .ok l) (hl : l.isBlank = false) :
    Normal limit.toNat l := by
  obtain ⟨⟨hle, -⟩, t, ht, htext⟩ := readLine_eq_ok_iff.1 h
  refine ⟨hl, ⟨notMem_of_isBreak rfl l, notMem_of_isBreak rfl l⟩, ?_, ?_⟩
  · rw [← Text.trimEnd_eq_self_iff, htext, Text.trimEnd_trimEnd]
  · -- The limit is on the bytes before trimming, and trimming takes bytes away.
    calc l.byteLength = Text.byteLength (Text.trimEnd t) := by rw [Line.byteLength, htext]
      _ ≤ Text.byteLength t := byteLength_trimEnd_le t
      _ = (dropCr raw).length := by rw [Text.byteLength, ht]
      _ ≤ limit.toNat := hle

lemma Say.normal (h : Say limit raws ls) : ∀ l ∈ ls, Normal limit.toNat l := by
  intro l hl
  have hmem : (.ok l : Except Fault Line) ∈ raws.map (readLine limit) := by
    rw [h.1]
    exact List.mem_map_of_mem hl
  obtain ⟨raw, -, hraw⟩ := List.mem_map.1 hmem
  exact normal_of_readLine hraw (h.2 l hl)

lemma normal_of_toExcept (h : (verdict limit raws).toExcept = .ok ls) :
    ∀ l ∈ ls, Normal limit.toNat l := by
  rcases toExcept_eq_ok_iff.1 h with hv | hv
  · obtain ⟨before, -, -, -, hsay, -⟩ := verdict_eq_iff.1 hv
    exact hsay.normal
  · have hsay : Say limit raws ls := verdict_eq_iff.1 hv
    exact hsay.normal

lemma Whole.normal {as : List Arrival} (h : Whole limit as ls) :
    ∀ l ∈ ls, Normal limit.toNat l := by
  rcases whole_iff.1 h with hv | ⟨-, hv⟩
  · exact normal_of_toExcept (toExcept_eq_ok_iff.2 (.inl hv))
  · exact normal_of_toExcept hv

lemma normal_of_decodeCommand {c : Command} (h : decodeCommand w = .ok c) :
    ∀ l ∈ c.lines, Normal 8192 l := by
  have hend := decodeCommand_eq_ok_iff.1 h
  rw [(atEnd_alike defaultLimit w).toExcept_eq_ok_iff] at hend
  exact normal_of_toExcept hend

/-! ### What is normal stays as it is -/

lemma Normal.readLine_written (h : Normal limit.toNat l) : readLine limit (written l) = .ok l := by
  have htrim : l.trimEnd = l := Line.ext (Text.trimEnd_eq_self_iff.2 h.trimmed)
  rw [Framing.readLine_written, if_neg (Nat.not_lt.2 h.fits), htrim]

lemma say_written (h : ∀ l ∈ ls, Normal limit.toNat l) : Say limit (ls.map written) ls := by
  refine ⟨?_, fun l hl => (h l hl).notBlank⟩
  rw [List.map_map]
  exact List.map_congr_left fun l hl => (h l hl).readLine_written

lemma toExcept_written (h : ∀ l ∈ ls, Normal limit.toNat l) :
    (verdict limit (ls.map written)).toExcept = .ok ls := by
  rw [verdict_of_say (say_written h), toExcept_pending]

lemma readCommand_normal {c : Command} (hlim : limit.toNat + 1 < UInt64.size)
    (h : ∀ l ∈ c.lines, Normal limit.toNat l) {reads : List Bytes}
    (hcut : Cut (encodeCommand c) reads) :
    (({ limit } : Codec).readCommand (reads.map .bytes)).1.answer = .done (.ok (some c)) := by
  have hall : (verdict limit (allLines (encodeCommand c))).toExcept = .ok c.lines := by
    rw [allLines_encodeCommand, toExcept_written h]
  exact readCommand_eq_some_iff.2 (hcut.carries hlim hall)

lemma decodeCommand_normal {c : Command} (h : ∀ l ∈ c.lines, Normal 8192 l) :
    decodeCommand (encodeCommand c) = .ok c := by
  have hread : (verdict defaultLimit (c.lines.map written)).toExcept = .ok c.lines :=
    toExcept_written h
  rw [decodeCommand_encoded, hread]
  exact dif_pos c.nonempty

/-- **Reading leaves normal lines, and normal lines are read as they are**: what has been read
from any stream is read again from its own bytes in any pieces, and what has been read from a
buffer is read again from its own bytes. -/
theorem reading_normalises (hlim : limit.toNat + 1 < UInt64.size) :
    (∀ as c, (({ limit } : Codec).readCommand as).1.answer = .done (.ok (some c)) →
      (∀ l ∈ c.lines, Normal limit.toNat l) ∧
        ∀ reads, Cut (encodeCommand c) reads →
          (({ limit } : Codec).readCommand (reads.map .bytes)).1.answer = .done (.ok (some c))) ∧
    (∀ w c, decodeCommand w = .ok c →
      (∀ l ∈ c.lines, Normal 8192 l) ∧ decodeCommand (encodeCommand c) = .ok c) ∧
    ∀ w, (decodeCommand w).bind (fun c => decodeCommand (encodeCommand c)) = decodeCommand w := by
  refine ⟨fun as c h => ?_, fun w c h => ?_, fun w => ?_⟩
  · have hnormal := (readCommand_eq_some_iff.1 h).whole.normal
    exact ⟨hnormal, fun reads hcut => readCommand_normal hlim hnormal hcut⟩
  · have hnormal := normal_of_decodeCommand h
    exact ⟨hnormal, decodeCommand_normal hnormal⟩
  · rcases h : decodeCommand w with f | c | _
    · rfl
    · exact decodeCommand_normal (normal_of_decodeCommand h)
    · rfl

/-- Two carriage returns, a no-break space and bytes that are never looked at are gone after the
first time. -/
theorem reading_normalises_padded :
    let c : Command := ⟨[⟨['v', 'd'], Line.unbroken_of_any rfl⟩,
      ⟨['l', 's'], Line.unbroken_of_any rfl⟩], by decide⟩
    let as : List Arrival := [.bytes [118, 100, 32, 13, 13, 10, 108], .bytes [115, 194],
      .bytes [160, 10, 13, 10, 255], .silence]
    let reads : List Bytes := [[118, 100, 13], [10, 108, 115, 13, 10]]
    (7 : UInt64).toNat + 1 < UInt64.size ∧ Cut (encodeCommand c) reads ∧
      (({ limit := 7 } : Codec).readCommand as).1.answer = .done (.ok (some c)) ∧
      (({ limit := 7 } : Codec).readCommand (reads.map .bytes)).1.answer =
        .done (.ok (some c)) := by
  intro c as reads
  have hlim : (7 : UInt64).toNat + 1 < UInt64.size := by decide
  have hcut : Cut (encodeCommand c) reads := ⟨by decide, by decide⟩
  have hread : (({ limit := 7 } : Codec).readCommand as).1.answer = .done (.ok (some c)) := by
    rw [readCommand_eq_listen rfl]
    rfl
  exact ⟨hlim, hcut, hread, ((reading_normalises hlim).1 as c hread).2 reads hcut⟩

end LinkCourier.Framing
