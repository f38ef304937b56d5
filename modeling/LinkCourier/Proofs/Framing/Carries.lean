import Mathlib.Data.List.Basic
import LinkCourier.Proofs.Framing.Cuts

/-!
Which streams carry a command: those that are good up to a blank line, or up to their end. A
stream that fails or falls silent before has carried nothing, however many lines it has brought.
-/

namespace LinkCourier.Framing

/-- The pieces that a stream brings before it ends, fails or falls silent. -/
def pieces : List Arrival → List Bytes
  | .bytes w :: as => if w = [] then [] else w :: pieces as
  | _ => []

/-- The stream ends; it does not fail and does not fall silent. -/
def Ends : List Arrival → Prop
  | [] => True
  | .bytes w :: as => w = [] ∨ Ends as
  | _ => False

/-- The bytes that a stream brings. -/
def brought (as : List Arrival) : Bytes := (pieces as).flatten

/-- The sequence `ls` is closed by a blank line, or the stream ends after it. -/
def Whole (limit : UInt64) (as : List Arrival) (ls : List Line) : Prop :=
  Closes limit (lines (brought as)) ls ∨
    Ends as ∧ (Closes limit (allLines (brought as)) ls ∨ Say limit (allLines (brought as)) ls)

/-- The stream carries the command. With the largest limit no stream does, since the first call
panics. -/
structure Carries (limit : UInt64) (as : List Arrival) (c : Command) : Prop where
  small : limit.toNat + 1 < UInt64.size
  whole : Whole limit as c.lines

variable {limit : UInt64} {c : Command} {got : Bytes} {as : List Arrival}

lemma toExcept_eq_ok_iff {v : Verdict} {ls : List Line} :
    v.toExcept = .ok ls ↔ v = .closed ls ∨ v = .pending ls := by
  cases v <;> simp

lemma result_eq_some_iff {v : Verdict} :
    v.result = .ok (some c) ↔ v.toExcept = .ok c.lines := by
  rw [Verdict.result]
  rcases v.toExcept with f | ls
  · simp
  · simp only [Result.ok.injEq, Except.ok.injEq]
    rw [finish_eq_some_iff, eq_comm]

lemma whole_iff {ls : List Line} : Whole limit as ls ↔
    verdict limit (lines (brought as)) = .closed ls ∨
      Ends as ∧ (verdict limit (allLines (brought as))).toExcept = .ok ls := by
  rw [toExcept_eq_ok_iff, verdict_eq_iff, verdict_eq_iff, verdict_eq_iff]
  rfl

lemma verdict_lines_append (limit : UInt64) (u v : Bytes) : verdict limit (lines (u ++ v)) =
    (verdict limit (lines u)).andThen (verdict limit (lines (tail u ++ v))) := by
  rw [lines_append, verdict_append]

/-- What has been closed stays closed. -/
lemma verdict_lines_closed {ls : List Line} (h : verdict limit (lines got) = .closed ls)
    (v : Bytes) : verdict limit (lines (got ++ v)) = .closed ls ∧
      verdict limit (allLines (got ++ v)) = .closed ls := by
  rw [verdict_lines_append, verdict_allLines_append, h]
  exact ⟨rfl, rfl⟩

/-! ### What is read -/

/-- A stream of which `got` has come carries the command, and no pending line is too long before
the sequence is closed. -/
def CarriesOn (limit : UInt64) (got : Bytes) (as : List Arrival) (c : Command) : Prop :=
  (verdict limit (lines (got ++ brought as)) = .closed c.lines ∨
    Ends as ∧ (verdict limit (allLines (got ++ brought as))).toExcept = .ok c.lines) ∧
  ∀ ps, ps <+: pieces as → (tail (got ++ ps.flatten)).length ≤ limit.toNat + 1 ∨
    verdict limit (lines (got ++ ps.flatten)) = .closed c.lines

lemma carriesOn_closed {ls : List Line} (hv : verdict limit (lines got) = .closed ls) :
    CarriesOn limit got as c ↔ c.lines = ls := by
  have happ := verdict_lines_closed hv
  refine ⟨fun h => ?_, fun h => ⟨.inl ?_, fun ps _ => .inr ?_⟩⟩
  · rcases h.1 with hc | ⟨-, hc⟩
    · rw [(happ _).1] at hc
      exact (Verdict.closed.inj hc).symm
    · rw [(happ _).2] at hc
      exact (Except.ok.inj hc).symm
  · rw [h, (happ _).1]
  · rw [h, (happ _).1]

lemma not_carriesOn_failed {ls : List Line} {f : Fault}
    (hv : verdict limit (lines got) = .failed ls f) : ¬ CarriesOn limit got as c := by
  rintro ⟨hc | ⟨-, hc⟩, -⟩
  · rw [verdict_lines_append, hv] at hc
    simp at hc
  · rw [verdict_allLines_append, hv] at hc
    simp at hc

lemma carriesOn_bytes (hlong : ¬ limit.toNat + 1 < (tail got).length) {w : Bytes} (hw : w ≠ []) :
    CarriesOn limit got (.bytes w :: as) c ↔ CarriesOn limit (got ++ w) as c := by
  have hpieces : pieces (.bytes w :: as) = w :: pieces as := by simp [pieces, hw]
  have hends : Ends (.bytes w :: as) ↔ Ends as := by simp [Ends, hw]
  rw [CarriesOn, CarriesOn, brought, brought, hpieces, hends, List.flatten_cons,
    ← List.append_assoc]
  refine and_congr_right fun _ => ⟨fun h ps hps => ?_, fun h ps hps => ?_⟩
  · rw [List.append_assoc]
    exact h (w :: ps) ((List.prefix_cons_inj w).2 hps)
  · rcases ps with _ | ⟨p, ps⟩
    · rw [List.flatten_nil, List.append_nil]
      exact .inl (Nat.le_of_not_lt hlong)
    · obtain ⟨rfl, hps'⟩ := List.cons_prefix_cons.1 hps
      rw [List.flatten_cons, ← List.append_assoc]
      exact h ps hps'

section

variable {ls : List Line} (hv : verdict limit (lines got) = .pending ls)

include hv

lemma not_carriesOn_tooLong (hlong : limit.toNat + 1 < (tail got).length) :
    ¬ CarriesOn limit got as c := by
  rintro ⟨-, hc⟩
  rcases hc [] List.nil_prefix with hle | hc
  · rw [List.flatten_nil, List.append_nil] at hle
    omega
  · simp [hv] at hc

lemma carriesOn_of_pieces_eq_nil (hlong : ¬ limit.toNat + 1 < (tail got).length)
    (has : pieces as = []) : CarriesOn limit got as c ↔
      Ends as ∧ (verdict limit (allLines got)).toExcept = .ok c.lines := by
  rw [CarriesOn, brought, has, List.flatten_nil, List.append_nil, hv]
  refine ⟨fun h => h.1.resolve_left (by simp), fun h => ⟨.inr h, fun ps hps => .inl ?_⟩⟩
  rw [List.prefix_nil.1 hps, List.flatten_nil, List.append_nil]
  exact Nat.le_of_not_lt hlong

end

lemma listen_eq_some_iff (hlim : limit.toNat + 1 < UInt64.size) (got : Bytes) (as : List Arrival) :
    listen limit got as = .done (.ok (some c)) ↔ CarriesOn limit got as c := by
  rcases hv : verdict limit (lines got) with ls | ⟨ls, f⟩ | ls
  · rw [listen_closed hv, carriesOn_closed hv, ← finish_eq_some_iff]
    simp
  · rw [listen_failed hv]
    simpa using not_carriesOn_failed hv
  by_cases hlong : limit.toNat + 1 < (tail got).length
  · rw [listen_tooLong hlim hv hlong]
    simpa using not_carriesOn_tooLong hv hlong
  rw [listen_pending hlim hv hlong]
  rcases as with _ | ⟨w | e | _, as⟩
  · rw [carriesOn_of_pieces_eq_nil hv hlong rfl, ← result_eq_some_iff]
    simp [Ends]
  · by_cases hw : w = []
    · rw [carriesOn_of_pieces_eq_nil hv hlong (by simp [pieces, hw]), ← result_eq_some_iff]
      simp [Ends, hw]
    · rw [carriesOn_bytes hlong hw, ← listen_eq_some_iff hlim (got ++ w) as]
      simp [hw]
  · rw [carriesOn_of_pieces_eq_nil hv hlong rfl]
    simp [Ends]
  · rw [carriesOn_of_pieces_eq_nil hv hlong rfl]
    simp [Ends]

/-- A pending line that is too long is too long for any sequence. -/
lemma Whole.le_or_closed {ls : List Line} (h : Whole limit as ls) {ps : List Bytes}
    (hps : ps <+: pieces as) :
    (tail ps.flatten).length ≤ limit.toNat + 1 ∨
      verdict limit (lines ps.flatten) = .closed ls := by
  have hall : (verdict limit (allLines (brought as))).toExcept = .ok ls := by
    rcases whole_iff.1 h with hc | ⟨-, hc⟩
    · rw [← List.append_nil (brought as), (verdict_lines_closed hc []).2]
      rfl
    · exact hc
  obtain ⟨qs, hqs⟩ := hps
  rw [brought, ← hqs, List.flatten_append] at hall
  rcases hv : verdict limit (lines ps.flatten) with ms | ⟨ms, f⟩ | ms
  · rw [(verdict_lines_closed hv _).2] at hall
    exact .inr (congrArg Verdict.closed (Except.ok.inj hall))
  · rw [verdict_allLines_append, hv] at hall
    simp at hall
  · refine .inl (Nat.le_of_not_lt fun hlong => ?_)
    obtain ⟨n, hn⟩ := verdict_tooLong hlong qs.flatten
    rw [verdict_allLines_append, hv, hn] at hall
    simp at hall

/-- **A command is read exactly from the streams that carry it**, however they are cut. -/
theorem readCommand_eq_some_iff :
    (({ limit } : Codec).readCommand as).1.answer = .done (.ok (some c)) ↔
      Carries limit as c := by
  by_cases hlim : limit.toNat + 1 < UInt64.size
  · rw [readCommand_eq_listen rfl, listen_eq_some_iff hlim, CarriesOn, List.nil_append,
      ← whole_iff]
    refine ⟨fun h => ⟨hlim, h.1⟩, fun h => ⟨h.whole, fun ps hps => ?_⟩⟩
    rw [List.nil_append]
    exact h.whole.le_or_closed hps
  · rw [readCommand_largest hlim]
    exact ⟨by simp, fun h => absurd h.small hlim⟩

/-! ### Streams that end -/

section

variable {w : Bytes} {reads : List Bytes}

lemma Cut.pieces_eq (h : Cut w reads) : pieces (reads.map .bytes) = reads := by
  have hreads := h.nil_notMem
  clear h
  induction reads with
  | nil => rfl
  | cons r reads ih =>
    rw [List.mem_cons, not_or] at hreads
    rw [List.map_cons, pieces, if_neg (Ne.symm hreads.1), ih hreads.2]

lemma ends_bytes (reads : List Bytes) : Ends (reads.map .bytes) := by
  induction reads with
  | nil => trivial
  | cons r reads ih => exact .inr ih

/-- It does not matter how a stream that ends is cut. -/
lemma Cut.carries (hlim : limit.toNat + 1 < UInt64.size) (h : Cut w reads)
    (hw : (verdict limit (allLines w)).toExcept = .ok c.lines) :
    Carries limit (reads.map .bytes) c := by
  refine ⟨hlim, whole_iff.2 (.inr ⟨ends_bytes reads, ?_⟩)⟩
  rwa [brought, h.pieces_eq, h.flatten_eq]

end

end LinkCourier.Framing
