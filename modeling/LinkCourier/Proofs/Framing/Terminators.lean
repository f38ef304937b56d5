import Mathlib.Data.List.Basic
import LinkCourier.Proofs.Download
import LinkCourier.Proofs.Framing.Carries
import LinkCourier.Proofs.Framing.RoundTrip
import LinkCourier.Proofs.Text.WellFormed

/-!
A command on the wire has the terminators of its lines and no other bytes of a terminator. The
lines stand between them as they are, whatever their texts are, so that nothing in a text can
begin a line of its own.
-/

namespace LinkCourier

namespace Framing

/-- The pieces between the terminators; a line feed or a carriage return alone cuts nothing. -/
def splitTerminators : Bytes → List Bytes
  | [] => [[]]
  | [b] => [[b]]
  | a :: b :: w =>
    if a = cr ∧ b = lf then [] :: splitTerminators w
    else (splitTerminators (b :: w)).modifyHead (a :: ·)

/-- Each of the texts is ended by a terminator, and there is nothing else. Both ways of looking
for their ends, by line feeds and by whole terminators, find the texts. -/
structure Terminated (w : Bytes) (texts : List Bytes) : Prop where
  count_cr : w.count cr = texts.length
  count_lf : w.count lf = texts.length
  lf_after_cr : ∀ u v, w = u ++ cr :: v → ∃ v', v = lf :: v'
  cr_before_lf : ∀ u v, w = u ++ lf :: v → ∃ u', u = u' ++ [cr]
  splitOn_lf : w.splitOn lf = texts.map (· ++ [cr]) ++ [[]]
  splitTerminators_eq : splitTerminators w = texts ++ [[]]

section

variable {b : UInt8} {t u v w : Bytes} {texts : List Bytes}

/-- A byte that is not in a text is found behind it. -/
lemma exists_of_append_eq (hb : b ∉ t) (h : t ++ w = u ++ b :: v) :
    ∃ a, u = t ++ a ∧ w = a ++ b :: v := by
  rcases List.append_eq_append_iff.1 h with ⟨a, hu, hw⟩ | ⟨a, ht, hv⟩
  · exact ⟨a, hu, hw⟩
  · rcases a with _ | ⟨d, a⟩
    · exact ⟨[], by simpa using ht.symm, by simpa using hv.symm⟩
    · obtain ⟨rfl, -⟩ := List.cons.inj hv
      exact absurd (by simp [ht]) hb

lemma splitTerminators_append (h : cr ∉ t) (w : Bytes) :
    splitTerminators (t ++ (terminator ++ w)) = t :: splitTerminators w := by
  induction t with
  | nil => simp [terminator, splitTerminators]
  | cons a t ih =>
    rw [List.mem_cons, not_or] at h
    have hrest := ih h.2
    -- What follows `a` is not empty, so that a terminator could begin with `a`.
    obtain ⟨d, r, hr⟩ : ∃ d r, t ++ (terminator ++ w) = d :: r := by
      rcases t with _ | ⟨d, t⟩
      · exact ⟨cr, lf :: w, rfl⟩
      · exact ⟨d, t ++ (terminator ++ w), rfl⟩
    have ha : ¬ (a = cr ∧ d = lf) := fun hab => h.1 hab.1.symm
    rw [List.cons_append, hr, splitTerminators, if_neg ha, ← hr, hrest, List.modifyHead_cons]

lemma terminated_nil : Terminated [] [] := by
  constructor <;> simp [splitTerminators]

/-- **One more text** in front, with its terminator. -/
theorem Terminated.cons (hw : Terminated w texts) (hcr : cr ∉ t) (hlf : lf ∉ t) :
    Terminated (t ++ (terminator ++ w)) (t :: texts) := by
  have hne : lf ≠ cr := by decide
  constructor
  · simp [List.count_append, List.count_eq_zero_of_not_mem hcr, terminator, hw.count_cr, hne]
  · simp [List.count_append, List.count_eq_zero_of_not_mem hlf, terminator, hw.count_lf,
      hne.symm]
  · intro u v h
    obtain ⟨a, -, ha⟩ := exists_of_append_eq hcr h
    rcases a with _ | ⟨d, _ | ⟨e, a⟩⟩
    · exact ⟨w, (List.cons.inj ha).2.symm⟩
    · exact absurd (List.cons.inj (List.cons.inj ha).2).1 hne
    · exact hw.lf_after_cr a v (List.cons.inj (List.cons.inj ha).2).2
  · intro u v h
    obtain ⟨a, hu, ha⟩ := exists_of_append_eq hlf h
    rcases a with _ | ⟨d, _ | ⟨e, a⟩⟩
    · exact absurd (List.cons.inj ha).1.symm hne
    · exact ⟨t, by rw [hu, ← (List.cons.inj ha).1]⟩
    · obtain ⟨u', hu'⟩ := hw.cr_before_lf a v (List.cons.inj (List.cons.inj ha).2).2
      exact ⟨t ++ d :: e :: u', by rw [hu, hu', List.append_assoc]; rfl⟩
  · have hline : t ++ (terminator ++ w) = (t ++ [cr]) ++ lf :: w := by simp [terminator]
    have hmem : lf ∉ t ++ [cr] := by simp [hlf, hne]
    rw [hline, List.splitOn_append_cons_self_of_not_mem hmem, hw.splitOn_lf]
    rfl
  · rw [splitTerminators_append hcr, hw.splitTerminators_eq]
    rfl

end

lemma cr_notMem_encode (l : Line) : cr ∉ Text.encode l.text :=
  notMem_encode (d := '\r') (by decide) (by decide) (by decide) l

lemma lf_notMem_encode (l : Line) : lf ∉ Text.encode l.text :=
  notMem_encode (d := '\n') (by decide) (by decide) (by decide) l

lemma terminated_encoded (ls : List Line) :
    Terminated (ls.flatMap encodeLine) (ls.map fun l => Text.encode l.text) := by
  induction ls with
  | nil => exact terminated_nil
  | cons l ls ih =>
    rw [List.flatMap_cons, encodeLine, List.append_assoc, List.map_cons]
    exact ih.cons (cr_notMem_encode l) (lf_notMem_encode l)

/-- Lines are told apart by their bytes. -/
lemma encoded_injective {ls ms : List Line}
    (h : ls.flatMap encodeLine = ms.flatMap encodeLine) : ls = ms := by
  have htexts := (terminated_encoded ls).splitTerminators_eq
  rw [h, (terminated_encoded ms).splitTerminators_eq, List.append_cancel_right_eq] at htexts
  have hinj : Function.Injective fun l : Line => Text.encode l.text :=
    fun l m hlm => Line.ext (Utf8.encode_injective hlm)
  exact (List.map_injective_iff.2 hinj htexts).symm

/-! ### What a receiver sees -/

variable {limit : UInt64} {ls ms : List Line}

/-- Whatever the limit, nothing but the first lines is read. -/
lemma read_isPrefix (h : (verdict limit (ls.map written)).toExcept = .ok ms) :
    ms <+: ls.map Line.trimEnd := by
  induction ls generalizing ms with
  | nil =>
    obtain rfl : [] = ms := Except.ok.inj h
    exact List.nil_prefix
  | cons l ls ih =>
    rw [List.map_cons, verdict, readLine_written] at h
    by_cases hl : limit.toNat < l.byteLength
    · simp [hl] at h
    by_cases hb : l.isBlank
    · obtain rfl : [] = ms := by simpa [hl, hb] using h
      exact List.nil_prefix
    · simp only [hl, hb, if_false, Line.isBlank_trimEnd, Bool.false_eq_true, toExcept_after] at h
      rcases hrest : (verdict limit (ls.map written)).toExcept with f | ns
      · simp [hrest, Except.map] at h
      · rw [hrest] at h
        obtain rfl : l.trimEnd :: ns = ms := Except.ok.inj h
        exact (List.prefix_cons_inj _).2 (ih hrest)

lemma toExcept_of_readCommand {c d : Command} {reads : List Bytes}
    (hcut : Cut (encodeCommand c) reads)
    (h : (({ limit } : Codec).readCommand (reads.map .bytes)).1.answer = .done (.ok (some d))) :
    (verdict limit (c.lines.map written)).toExcept = .ok d.lines := by
  have hlines : lines (encodeCommand c) = c.lines.map written := lines_encoded c.lines
  have hw := whole_iff.1 (readCommand_eq_some_iff.1 h).whole
  rw [brought, hcut.pieces_eq, hcut.flatten_eq, hlines, allLines_encodeCommand] at hw
  rcases hw with hv | ⟨-, hv⟩
  · rw [hv, toExcept_closed]
  · exact hv

lemma toExcept_of_decodeCommand {c d : Command} (h : decodeCommand (encodeCommand c) = .ok d) :
    (verdict defaultLimit (c.lines.map written)).toExcept = .ok d.lines := by
  rw [decodeCommand_encoded] at h
  rcases hv : (verdict defaultLimit (c.lines.map written)).toExcept with f | ns
  · simp [hv] at h
  · simp only [hv] at h
    split_ifs at h
    rw [← Result.ok.inj h]

/-- One line after the other gives the same bytes. -/
lemma foldl_encode (k : Codec) (ls : List Line) (buf : Bytes) :
    ls.foldl (fun buf l => k.encode l buf) buf = buf ++ ls.flatMap encodeLine := by
  induction ls generalizing buf with
  | nil => simp
  | cons l ls ih => rw [List.foldl_cons, ih, Codec.encode, List.flatMap_cons, List.append_assoc]

end Framing

/-! ### Where commands come from -/

namespace Command

lemma texts_of_linesOfTexts {ts : List Text} {ls : List Line} (h : linesOfTexts ts = .ok ls) :
    ls.map (·.text) = ts := by
  induction ts generalizing ls with
  | nil =>
    obtain rfl : [] = ls := Except.ok.inj h
    rfl
  | cons t ts ih =>
    rw [linesOfTexts] at h
    rcases hl : Line.ofText t with b | l
    · simp [hl] at h
    · rcases hrest : linesOfTexts ts with f | ms
      · simp [hl, hrest, Except.map] at h
      · obtain rfl : l :: ms = ls := by simpa [hl, hrest, Except.map] using h
        rw [List.map_cons, ih hrest, Line.ofText_eq_ok_iff.1 hl]

lemma lines_of_ofLines {ls : List Line} {c : Command} (h : ofLines ls = .ok c) : c.lines = ls := by
  rw [ofLines] at h
  split_ifs at h
  rw [← Except.ok.inj h]

lemma texts_of_ofTexts {ts : List Text} {c : Command} (h : ofTexts ts = .ok c) :
    c.lines.map (·.text) = ts := by
  rw [ofTexts] at h
  rcases hls : linesOfTexts ts with f | ls
  · simp [hls] at h
  · rw [hls] at h
    rw [lines_of_ofLines h, texts_of_linesOfTexts hls]

lemma texts_of_download {link : Text} {c : Command} (h : download link = .ok c) :
    c.lines.map (·.text) = ["modprobe http".toList, "do ".toList ++ link] := by
  by_cases hlink : Refused link
  · obtain ⟨f, hf⟩ := download_of_refused hlink
    simp [hf] at h
  · obtain ⟨l, hl, hd⟩ := download_of_not_refused hlink
    obtain rfl := Except.ok.inj (hd.symm.trans h)
    simp only [List.map_cons, List.map_nil, hl]
    rfl

end Command

namespace Framing

/-- **Nothing is smuggled in**: the bytes of a command are those of its lines, each with its
terminator, and hold no other byte of a terminator. They tell the command. Whoever receives
them, in whatever reads and with whatever limit, sees the first lines of the command without the
white space at their ends, or nothing. The lines in turn have the texts that the command was made
from. -/
theorem encodeCommand_terminated (c : Command) :
    Terminated (encodeCommand c) (c.lines.map fun l => Text.encode l.text) ∧
    (∀ d, encodeCommand d = encodeCommand c → d = c) ∧
    (∀ (limit : UInt64) raw l, raw ∈ allLines (encodeCommand c) → readLine limit raw = .ok l →
      ∃ m ∈ c.lines, l = m.trimEnd) ∧
    (∀ (limit : UInt64) reads d, Cut (encodeCommand c) reads →
      (({ limit } : Codec).readCommand (reads.map .bytes)).1.answer = .done (.ok (some d)) →
      d.lines <+: c.lines.map Line.trimEnd) ∧
    (∀ d, decodeCommand (encodeCommand c) = .ok d → d.lines <+: c.lines.map Line.trimEnd) ∧
    (∀ (k : Codec) buf,
      c.lines.foldl (fun buf l => k.encode l buf) buf = buf ++ encodeCommand c) ∧
    (∀ link, Command.download link = .ok c →
      c.lines.map (·.text) = ["modprobe http".toList, "do ".toList ++ link]) ∧
    (∀ ts, Command.ofTexts ts = .ok c → c.lines.map (·.text) = ts) ∧
    (∀ ls, Command.ofLines ls = .ok c → c.lines = ls) := by
  refine ⟨terminated_encoded c.lines, fun d h => ?_, fun limit raw l hraw hl => ?_,
    fun limit reads d hcut h => ?_, fun d h => ?_, fun k buf => foldl_encode k c.lines buf,
    fun link h => Command.texts_of_download h, fun ts h => Command.texts_of_ofTexts h,
    fun ls h => Command.lines_of_ofLines h⟩
  · obtain ⟨ls, hls⟩ := d
    obtain ⟨ms, hms⟩ := c
    obtain rfl : ls = ms := encoded_injective h
    rfl
  · rw [allLines_encodeCommand] at hraw
    obtain ⟨m, hm, rfl⟩ := List.mem_map.1 hraw
    rw [readLine_written] at hl
    split_ifs at hl
    exact ⟨m, hm, (Except.ok.inj hl).symm⟩
  · exact read_isPrefix (toExcept_of_readCommand hcut h)
  · exact read_isPrefix (toExcept_of_decodeCommand h)

end Framing

end LinkCourier
