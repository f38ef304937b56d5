import Mathlib.Data.List.Basic
import LinkCourier.Proofs.Framing.Carries
import LinkCourier.Proofs.Framing.Grammar

/-!
How a sequence ends. A blank line closes it, and what comes after that line is never looked at,
however it is cut and however the stream goes on. The end of the stream closes a sequence in the
same way as a blank line in its place would.
-/

namespace LinkCourier.Framing

/-- One of the complete lines is blank: it is not over the limit, and nothing but white space
stands in it. -/
def HasBlank (limit : ℕ) (w : Bytes) : Prop :=
  ∃ raw ∈ lines w, (dropCr raw).length ≤ limit ∧ Segment.IsBlank (dropCr raw)

/-- The answers are the same, but for how a line that is over the limit is reported. -/
def Same (limit : UInt64) (raws : List Bytes) (a b : Answer (Option Command)) : Prop :=
  a = b ∨ ∃ raw ∈ raws, ∃ f g, TooLong limit raw f ∧ TooLong limit raw g ∧
    a = .done (.error (.framing f)) ∧ b = .done (.error (.framing g))

/-- No more lines are needed. -/
def Verdict.Settled (v : Verdict) : Prop := ∀ ls, v ≠ .pending ls

variable {limit : UInt64} {p w : Bytes} {raw : Bytes} {raws : List Bytes} {as : List Arrival}

/-! ### Blank lines -/

lemma blank_iff : Blank limit raw ↔
    (dropCr raw).length ≤ limit.toNat ∧ Segment.IsBlank (dropCr raw) := by
  constructor
  · rintro ⟨l, hl, hb⟩
    obtain ⟨hgood, hline⟩ := readLine_eq_ok_iff.1 hl
    exact ⟨hgood.1, hline.isBlank_iff.1 hb⟩
  · rintro ⟨hle, t, ht, hnil⟩
    have hgood : Segment.Good limit.toNat (dropCr raw) := ⟨hle, t, ht, by simp [hnil]⟩
    have hline : Segment.Says (dropCr raw) ⟨[], by simp⟩ := ⟨t, ht, hnil.symm⟩
    exact ⟨_, readLine_eq_ok_iff.2 ⟨hgood, hline⟩, rfl⟩

lemma not_blank_of_say {ls : List Line} (h : Say limit raws ls) (hraw : raw ∈ raws) :
    ¬ Blank limit raw := by
  rintro ⟨l, hl, hb⟩
  have hmem : (.ok l : Except Fault Line) ∈ ls.map .ok := by
    rw [← h.1, ← hl]
    exact List.mem_map_of_mem hraw
  obtain ⟨m, hm, hml⟩ := List.mem_map.1 hmem
  have hno := h.2 m hm
  rw [Except.ok.inj hml, hb] at hno
  exact Bool.noConfusion hno

lemma HasBlank.settled (h : HasBlank limit.toNat w) : (verdict limit (lines w)).Settled := by
  obtain ⟨raw, hraw, hblank⟩ := h
  intro ls hv
  exact not_blank_of_say (verdict_eq_iff.1 hv) hraw (blank_iff.2 hblank)

/-- The second line feed of two in a row ends a blank line, also with a carriage return. -/
lemma verdict_terminator : verdict limit (lines terminator) = .closed [] := by
  have hlines : lines terminator = [[cr]] := by decide
  have hblank : Blank limit [cr] := blank_iff.2 ⟨Nat.zero_le _, [], rfl, rfl⟩
  rw [hlines, verdict_eq_iff]
  exact ⟨[], [cr], [], rfl, say_nil, hblank⟩

/-! ### What is settled stays so -/

lemma Verdict.Settled.andThen {v : Verdict} (h : v.Settled) (next : Verdict) :
    v.andThen next = v := by
  cases v with
  | closed ls => rfl
  | failed ls f => rfl
  | pending ls => exact absurd rfl (h ls)

lemma Verdict.settled_andThen_closed (v : Verdict) (ls : List Line) :
    (v.andThen (.closed ls)).Settled := by
  cases v <;> simp [Settled]

lemma verdict_of_settled (h : (verdict limit (lines p)).Settled) (hp : p <+: w) :
    verdict limit (lines w) = verdict limit (lines p) ∧
      verdict limit (allLines w) = verdict limit (lines p) := by
  obtain ⟨x, rfl⟩ := hp
  rw [verdict_lines_append, verdict_allLines_append]
  exact ⟨h.andThen _, h.andThen _⟩

lemma nil_notMem_pieces (as : List Arrival) : [] ∉ pieces as := by
  induction as with
  | nil => nofun
  | cons a as ih =>
    unfold pieces
    split
    · split
      · nofun
      · rename_i heq hne
        cases heq
        exact List.not_mem_cons_of_ne_of_not_mem (Ne.symm hne) ih
    · nofun

lemma brought_cons {u : Bytes} (hu : u ≠ []) (as : List Arrival) :
    brought (.bytes u :: as) = u ++ brought as := by
  rw [brought, pieces, if_neg hu, List.flatten_cons, brought]

/-- A stream that ends, or has brought all that is needed, is read like the pieces it brings: what
it does after them is not seen. -/
lemma listen_pieces (got : Bytes) (as : List Arrival)
    (h : Ends as ∨ (verdict limit (lines (got ++ brought as))).Settled) :
    listen limit got as = listen limit got ((pieces as).map .bytes) := by
  rcases hv : verdict limit (lines got) with ls | ⟨ls, f⟩ | ls
  · rw [listen_closed hv, listen_closed hv]
  · rw [listen_failed hv, listen_failed hv]
  by_cases hlim : limit.toNat + 1 < UInt64.size
  swap
  · rw [listen_largest hlim hv, listen_largest hlim hv]
  by_cases hlong : limit.toNat + 1 < (tail got).length
  · rw [listen_tooLong hlim hv hlong, listen_tooLong hlim hv hlong]
  rw [listen_pending hlim hv hlong, listen_pending hlim hv hlong]
  -- More is needed, so that a stream which brings nothing more has to end.
  have hends (hnil : pieces as = []) : Ends as := by
    rcases h with h | h
    · exact h
    · rw [brought, hnil, List.flatten_nil, List.append_nil, hv] at h
      exact absurd rfl (h ls)
  rcases as with _ | ⟨u | e | _, as⟩
  · rfl
  · by_cases hu : u = []
    · simp only [pieces, hu, if_true, List.map_nil]
    · rw [brought_cons hu, ← List.append_assoc] at h
      have hmore : Ends as ∨ (verdict limit (lines (got ++ u ++ brought as))).Settled :=
        h.imp_left fun hends => hends.resolve_left hu
      have hlisten := listen_pieces (got ++ u) as hmore
      simpa only [pieces, hu, if_false, List.map_cons] using hlisten
  · exact absurd (hends rfl) id
  · exact absurd (hends rfl) id

/-- A stream that ends, or has brought all that is needed, gives the verdict on what it brings,
but for how a line over the limit is reported. -/
lemma readCommand_alike (hlim : limit.toNat + 1 < UInt64.size)
    (h : Ends as ∨ (verdict limit (lines (brought as))).Settled) :
    ∃ v, (({ limit } : Codec).readCommand as).1.answer = .done v.result ∧
      Alike limit v (verdict limit (allLines (brought as))) := by
  have hcut : Cut (brought as) (pieces as) := ⟨rfl, nil_notMem_pieces as⟩
  have hpieces : (({ limit } : Codec).readCommand as).1.answer =
      (({ limit } : Codec).readCommand ((pieces as).map .bytes)).1.answer := by
    rw [readCommand_eq_listen rfl, readCommand_eq_listen rfl]
    exact listen_pieces [] as h
  rw [hpieces]
  exact readCommand_cut hlim hcut

/-- Verdicts that are both like the verdict on some lines. -/
lemma Alike.same {u v : Verdict} (hu : Alike limit u (verdict limit raws))
    (hv : Alike limit v (verdict limit raws)) :
    Same limit raws (.done u.result) (.done v.result) := by
  have hholds := holds_verdict limit raws
  rcases hw : verdict limit raws with ls | ⟨ls, f⟩ | ls <;> rw [hw] at hu hv hholds
  · cases hu
    cases hv
    exact .inl rfl
  · obtain ⟨before, raw, more, rfl, -, hraw⟩ := hholds
    obtain ⟨g, rfl, -, hg⟩ := hu.exists_reports hraw
    obtain ⟨g', rfl, -, hg'⟩ := hv.exists_reports hraw
    rcases hg with rfl | ⟨hlong, hlongf⟩
    · rcases hg' with rfl | ⟨hlong', hlong⟩
      · exact .inl rfl
      · exact .inr ⟨raw, by simp, g, g', hlong, hlong', rfl, rfl⟩
    · rcases hg' with rfl | ⟨hlong', -⟩
      · exact .inr ⟨raw, by simp, g, g', hlong, hlongf, rfl, rfl⟩
      · exact .inr ⟨raw, by simp, g, g', hlong, hlong', rfl, rfl⟩
  · cases hu
    cases hv
    exact .inl rfl

/-! ### Endings -/

lemma same_of_hasBlank (hlim : limit.toNat + 1 < UInt64.size) (h : HasBlank limit.toNat p)
    {bs : List Arrival} (has : p <+: brought as) (hbs : p <+: brought bs) :
    Same limit (lines p) (({ limit } : Codec).readCommand as).1.answer
      (({ limit } : Codec).readCommand bs).1.answer := by
  have halike {cs : List Arrival} (hcs : p <+: brought cs) :
      ∃ v, (({ limit } : Codec).readCommand cs).1.answer = .done v.result ∧
        Alike limit v (verdict limit (lines p)) := by
    obtain ⟨hlines, hall⟩ := verdict_of_settled h.settled hcs
    have hsettled : (verdict limit (lines (brought cs))).Settled := by
      rw [hlines]
      exact h.settled
    obtain ⟨v, hv, hlike⟩ := readCommand_alike hlim (.inr hsettled)
    rw [hall] at hlike
    exact ⟨v, hv, hlike⟩
  obtain ⟨u, hu, hulike⟩ := halike has
  obtain ⟨v, hv, hvlike⟩ := halike hbs
  rw [hu, hv]
  exact hulike.same hvlike

lemma decodeCommand_of_hasBlank (h : HasBlank 8192 p) (x y : Bytes) :
    decodeCommand (p ++ x) = decodeCommand (p ++ y) := by
  have hsettled : (verdict defaultLimit (lines p)).Settled := HasBlank.settled h
  have hend (x : Bytes) : atEnd defaultLimit (p ++ x) = verdict defaultLimit (lines p) := by
    rw [atEnd, (verdict_of_settled hsettled (List.prefix_append p x)).1]
    exact hsettled.andThen _
  rw [decodeCommand_eq, decodeCommand_eq, hend x, hend y]

lemma tail_eq_nil (h : w = [] ∨ w.getLast? = some lf) : tail w = [] := by
  rcases h with rfl | h
  · rfl
  · obtain ⟨u, rfl⟩ := List.getLast?_eq_some_iff.1 h
    have htail : tail (tail u ++ [lf]) = [] := tail_line (lf_notMem_tail u) []
    rw [tail_append, htail]

lemma verdict_lines_terminator (h : tail w = []) : verdict limit (lines (w ++ terminator)) =
    (verdict limit (lines w)).andThen (.closed []) := by
  rw [verdict_lines_append, h, List.nil_append, verdict_terminator]

lemma same_of_ends (hlim : limit.toNat + 1 < UInt64.size)
    (h : tail (brought as) = []) (hends : Ends as) {bs : List Arrival}
    (hbs : brought as ++ terminator <+: brought bs) :
    Same limit (lines (brought as)) (({ limit } : Codec).readCommand as).1.answer
      (({ limit } : Codec).readCommand bs).1.answer := by
  have hclosed : verdict limit (lines (brought as ++ terminator)) =
      (verdict limit (lines (brought as))).andThen (.closed []) := verdict_lines_terminator h
  have hsettled : (verdict limit (lines (brought as ++ terminator))).Settled := by
    rw [hclosed]
    exact Verdict.settled_andThen_closed _ _
  obtain ⟨hlines, hall⟩ := verdict_of_settled hsettled hbs
  obtain ⟨u, hu, hulike⟩ := readCommand_alike hlim (.inl hends)
  have hknown : Ends bs ∨ (verdict limit (lines (brought bs))).Settled := .inr (hlines ▸ hsettled)
  obtain ⟨v, hv, hvlike⟩ := readCommand_alike hlim hknown
  have hsame : allLines (brought as) = lines (brought as) := by simp [allLines, h]
  rw [hsame] at hulike
  rw [hall, hclosed] at hvlike
  rw [hu, hv]
  by_cases hopen : (verdict limit (lines (brought as))).Settled
  · rw [hopen.andThen] at hvlike
    exact hulike.same hvlike
  · -- All lines say something: the end of the stream and the blank line come to the same.
    simp only [Verdict.Settled, ne_eq, not_forall, not_not] at hopen
    obtain ⟨ls, hls⟩ := hopen
    rw [hls] at hulike hvlike
    cases hulike
    cases hvlike
    refine .inl ?_
    simp [Verdict.result]

/-- **What ends a sequence**: after a blank line nothing matters any more, neither what comes nor
whether the stream ends, fails or falls silent; and a stream that ends after a line feed gives
what it would give if a blank line came instead, followed by anything. -/
theorem sequence_endings (hlim : limit.toNat + 1 < UInt64.size) :
    (∀ p, HasBlank limit.toNat p → ∀ as bs, p <+: brought as → p <+: brought bs →
      Same limit (lines p) (({ limit } : Codec).readCommand as).1.answer
        (({ limit } : Codec).readCommand bs).1.answer) ∧
    (∀ p, HasBlank 8192 p → ∀ x y, decodeCommand (p ++ x) = decodeCommand (p ++ y)) ∧
    (∀ q, q = [] ∨ q.getLast? = some lf → ∀ as bs, Ends as → brought as = q →
      q ++ terminator <+: brought bs →
      Same limit (lines q) (({ limit } : Codec).readCommand as).1.answer
        (({ limit } : Codec).readCommand bs).1.answer) := by
  refine ⟨fun p h as bs has hbs => same_of_hasBlank hlim h has hbs,
    fun p h x y => decodeCommand_of_hasBlank h x y, fun q h as bs hends hq hbs => ?_⟩
  subst hq
  exact same_of_ends hlim (tail_eq_nil h) hends hbs

/-- A blank line in one read with bytes that are no text, and in two reads before a silence; and
the end of a stream in its place. -/
theorem sequence_endings_silent :
    let p : Bytes := [118, 100, 10, 9, 13, 10]
    let q : Bytes := [118, 100, 10]
    let failing : List Arrival := [.bytes [118, 100, 10, 9, 13, 10, 255], .fault (.plain .other)]
    let silent : List Arrival := [.bytes [118, 100, 10, 9], .bytes [13, 10], .silence]
    let ending : List Arrival := [.bytes [118, 100], .bytes [10]]
    let closing : List Arrival := [.bytes [118, 100, 10, 13], .bytes [10, 97, 98, 99, 100, 101]]
    (3 : UInt64).toNat + 1 < UInt64.size ∧ HasBlank (3 : UInt64).toNat p ∧ HasBlank 8192 p ∧
      Same 3 (lines p) (({ limit := 3 } : Codec).readCommand failing).1.answer
        (({ limit := 3 } : Codec).readCommand silent).1.answer ∧
      decodeCommand (p ++ [255]) = decodeCommand (p ++ []) ∧
      Same 3 (lines q) (({ limit := 3 } : Codec).readCommand ending).1.answer
        (({ limit := 3 } : Codec).readCommand closing).1.answer := by
  intro p q failing silent ending closing
  have hlim : (3 : UInt64).toNat + 1 < UInt64.size := by decide
  have hblank : [9, 13] ∈ lines p ∧ Segment.IsBlank (dropCr [9, 13]) := by decide
  have hthree : HasBlank (3 : UInt64).toNat p := ⟨[9, 13], hblank.1, by decide, hblank.2⟩
  have hdefault : HasBlank 8192 p := ⟨[9, 13], hblank.1, by decide, hblank.2⟩
  have hprefix : p <+: brought failing ∧ p <+: brought silent ∧
      q ++ terminator <+: brought closing := by decide
  obtain ⟨hsame, hdecode, hends⟩ := sequence_endings hlim
  exact ⟨hlim, hthree, hdefault, hsame p hthree failing silent hprefix.1 hprefix.2.1,
    hdecode p hdefault [255] [],
    hends q (by decide) ending closing (ends_bytes [[118, 100], [10]]) rfl hprefix.2.2⟩

end LinkCourier.Framing
