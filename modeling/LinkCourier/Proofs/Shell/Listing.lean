import Mathlib.Data.List.Basic
import LinkCourier.Proofs.Framing.Terminators
import LinkCourier.Proofs.Shell.Loading
import LinkCourier.Proofs.Shell.Replying
import LinkCourier.Proofs.Text.Decimal

/-!
The listing of the downloads tells them. Its rows stand between terminators, and a row is its
columns with a space between them, so that both can be cut again: a row has a number, a module and
a link, and a fourth column if the download is paused.
-/

namespace LinkCourier

open Text

/-- There is neither a space nor a line break in the text. -/
def Text.Compact (t : Text) : Prop := ' ' ∉ t ∧ '\r' ∉ t ∧ '\n' ∉ t

instance (t : Text) : Decidable t.Compact := inferInstanceAs (Decidable (_ ∧ _ ∧ _))

lemma Text.Compact.unbroken {t : Text} (h : t.Compact) : Unbroken t := unbroken_iff.2 h.2

variable {d e : Download} {ds es : List Download}

/-! ### Rows -/

namespace Reply

/-- What stands between the spaces of a row. -/
def columns (d : Download) : List Text :=
  [numbered d.id, '[' :: (d.loader.name.toList ++ [']']), d.link] ++
    if d.paused then ["(paused)".toList] else []

lemma downloadText_eq (d : Download) : downloadText d = List.intercalate [' '] (columns d) := by
  have hopen : " [".toList = [' ', '['] := by decide
  have hclose : "] ".toList = [']', ' '] := by decide
  have hmark : " (paused)".toList = ' ' :: "(paused)".toList := by decide
  rw [downloadText, columns, hopen, hclose, hmark]
  cases d.paused <;> simp [List.intercalate]

lemma space_notMem_numbered (id : ℕ) : ' ' ∉ numbered id := by
  intro h
  rcases List.mem_cons.1 h with h | h
  · exact absurd h (by decide)
  · exact Decimal.notMem_digits rfl id h

lemma space_notMem_columns (h : ' ' ∉ d.link) : ∀ t ∈ columns d, ' ' ∉ t := by
  have hloader : ' ' ∉ '[' :: (d.loader.name.toList ++ [']']) := by cases d.loader <;> decide
  intro t ht
  simp only [columns, List.mem_append, List.mem_cons, List.not_mem_nil, or_false] at ht
  rcases ht with (rfl | rfl | rfl) | ht
  · exact space_notMem_numbered d.id
  · exact hloader
  · exact h
  · split at ht
    · rw [List.mem_singleton.1 ht]
      decide
    · cases ht

/-- A row is cut into its columns at its spaces. -/
lemma splitOn_downloadText (h : ' ' ∉ d.link) : (downloadText d).splitOn ' ' = columns d := by
  rw [downloadText_eq]
  exact List.splitOn_intercalate ' ' (space_notMem_columns h) (List.cons_ne_nil _ _)

/-- The columns tell the download; whether there is a fourth one tells its flag. -/
lemma columns_injective (h : columns d = columns e) : d = e := by
  obtain ⟨id, link, loader, paused⟩ := d
  obtain ⟨id', link', loader', paused'⟩ := e
  simp only [columns, numbered, List.cons_append, List.nil_append, List.cons.injEq, true_and,
    List.append_cancel_right_eq] at h
  obtain ⟨hid, hloader, rfl, hmark⟩ := h
  have hvalue := congrArg Decimal.value hid
  rw [Decimal.value_digits, Decimal.value_digits] at hvalue
  have hmodule := congrArg Module.ofName? hloader
  rw [Module.ofName?_name, Module.ofName?_name, Option.some.injEq] at hmodule
  have hpaused : paused = paused' := by
    cases paused <;> cases paused' <;> simp at hmark ⊢
  rw [hvalue, hmodule, hpaused]

lemma downloadText_injective (hd : ' ' ∉ d.link) (he : ' ' ∉ e.link)
    (h : downloadText d = downloadText e) : d = e := by
  refine columns_injective ?_
  rw [← splitOn_downloadText hd, h, splitOn_downloadText he]

end Reply

/-! ### Listings -/

namespace Shell

open Script Reply

variable {α : Type} {k : Link.Reader α} {s s' : Store} {l l' : Line}

/-- The texts with which downloads are listed. -/
def listing : List Download → List Text
  | [] => ["No downloads queued.".toList]
  | ds => ds.map downloadText

/-- The answer to a command of one line. -/
def answer (k : Link.Reader α) (s : Store) (l : Line) : Bytes :=
  (respond k s ⟨[l], List.cons_ne_nil _ _⟩).1

lemma answer_eq_framed (k : Link.Reader α) (s : Store) (l : Line) :
    answer k s l = framed (said k s l) := by
  have hall : (executeAll k s [l]).1 = (execute k s l).1 := List.append_nil _
  rw [answer, respond_eq_framed, hall, said]

lemma said_of_hasVerb (hl : l.HasVerb .listDownloads) : said k s l = listing s.queue.entries := by
  rw [said, execute, script_of_hasVerb hl]
  rcases hds : s.queue.entries with _ | ⟨d, ds⟩
  · simp only [listDownloads, run, Call.run, hds, run_replies]
    rfl
  · simp only [listDownloads, run, Call.run, hds, run_replies, List.map_map]
    rfl

lemma unbroken_listing (h : ∀ d ∈ ds, d.link.Compact) : ∀ t ∈ listing ds, Unbroken t := by
  rcases ds with _ | ⟨d, ds⟩
  · exact List.forall_mem_singleton.2 (by decide)
  · intro t ht
    obtain ⟨e, he, rfl⟩ := List.mem_map.1 ht
    have hplain : (Reply.downloadRow e).Plain := List.forall_mem_singleton.2 (h e he).unbroken
    exact hplain.unbroken

/-- Texts on one line each are told by their frames. -/
lemma framed_injective {ts us : List Text} (hts : ∀ t ∈ ts, Unbroken t)
    (hus : ∀ t ∈ us, Unbroken t) (h : framed ts = framed us) : ts = us := by
  have hlines {ts : List Text} (hts : ∀ t ∈ ts, Unbroken t) :
      ∃ ls : List Line, ls.map Line.text = ts :=
    ⟨ts.pmap (fun t (ht : Unbroken t) => ⟨t, ht⟩) hts, by
      rw [List.map_pmap, List.pmap_eq_map, List.map_id']⟩
  have hframed (ls : List Line) : framed (ls.map Line.text) = ls.flatMap Framing.encodeLine :=
    List.flatMap_map _ _ _
  obtain ⟨ls, rfl⟩ := hlines hts
  obtain ⟨ms, rfl⟩ := hlines hus
  rw [hframed, hframed] at h
  rw [Framing.encoded_injective h]

lemma rows_injective (hds : ∀ d ∈ ds, d.link.Compact) (hes : ∀ d ∈ es, d.link.Compact)
    (h : ds.map downloadText = es.map downloadText) : ds = es := by
  induction ds generalizing es with
  | nil => exact (List.map_eq_nil_iff.1 h.symm).symm
  | cons d ds ih =>
    obtain ⟨e, es, rfl, hrow, hrows⟩ := List.map_eq_cons_iff.1 h.symm
    obtain ⟨hd, hds⟩ := List.forall_mem_cons.1 hds
    obtain ⟨he, hes⟩ := List.forall_mem_cons.1 hes
    rw [downloadText_injective hd.1 he.1 hrow.symm, ih hds hes hrows.symm]

/-- A row begins with a number sign. -/
lemma noDownloads_ne (d : Download) : "No downloads queued.".toList ≠ downloadText d := by
  intro h
  have hrow : (downloadText d).head? = some '#' := rfl
  rw [← h] at hrow
  exact absurd hrow (by decide)

/-- A listing tells the downloads, and that there are none. -/
lemma listing_injective (hds : ∀ d ∈ ds, d.link.Compact) (hes : ∀ d ∈ es, d.link.Compact)
    (h : listing ds = listing es) : ds = es := by
  rcases ds with _ | ⟨d, ds⟩ <;> rcases es with _ | ⟨e, es⟩
  · rfl
  · exact absurd (List.cons.inj h).1 (noDownloads_ne e)
  · exact absurd (List.cons.inj h).1.symm (noDownloads_ne d)
  · exact rows_injective hds hes h

/-- **The listing is faithful.** If no link has a space or a line break in it, two stores are
listed alike only if they have the same downloads, in the same order. The listing says that there
are none only if there are none, and each row is cut at its spaces into the number, the module and
the link, and behind them the mark of a paused download. -/
theorem listing_faithful (hl : l.HasVerb .listDownloads) (hl' : l'.HasVerb .listDownloads)
    (hs : ∀ d ∈ s.queue.entries, d.link.Compact) (hs' : ∀ d ∈ s'.queue.entries, d.link.Compact) :
    (answer k s l = answer k s' l' ↔ s.queue.entries = s'.queue.entries) ∧
      (answer k s l = encodeReply .noDownloads ↔ s.queue.entries = []) ∧
      ∀ d ∈ s.queue.entries, (Reply.downloadRow d).text.splitOn ' ' = columns d := by
  have htells (ds : List Download) (hds : ∀ d ∈ ds, d.link.Compact) :
      answer k s l = framed (listing ds) ↔ s.queue.entries = ds := by
    rw [answer_eq_framed, said_of_hasVerb hl]
    refine ⟨fun h => ?_, congrArg fun ds => framed (listing ds)⟩
    exact listing_injective hs hds (framed_injective (unbroken_listing hs) (unbroken_listing hds) h)
  refine ⟨?_, ?_, fun d hd => splitOn_downloadText (hs d hd).1⟩
  · rw [answer_eq_framed k s' l', said_of_hasVerb hl']
    exact htells _ hs'
  · have hnone : encodeReply .noDownloads = framed (listing []) := by
      simp only [framed, listing, List.flatMap_cons, List.flatMap_nil, List.append_nil]
      rfl
    rw [hnone]
    exact htells [] (List.forall_mem_nil _)

/-- A paused download, and one with the words of the mark at the end of its link. -/
theorem listing_faithful_mark :
    let d : Download := ⟨1, "http://a/".toList, .http, true⟩
    let d' : Download := ⟨1, "http://a/(paused)".toList, .http, false⟩
    let s : Store := ⟨{}, ⟨12, [d, ⟨12, "(paused)".toList, .ftp, false⟩]⟩⟩
    let s' : Store := ⟨{ http := true }, ⟨12, [d', ⟨12, "(paused)".toList, .ftp, false⟩]⟩⟩
    let l : Line := ⟨"vd".toList, Line.unbroken_of_any rfl⟩
    let l' : Line := ⟨" vd all".toList, Line.unbroken_of_any rfl⟩
    (l.HasVerb .listDownloads ∧ l'.HasVerb .listDownloads) ∧
      (∀ d ∈ s.queue.entries, d.link.Compact) ∧ (∀ d ∈ s'.queue.entries, d.link.Compact) ∧
      answer Link.reader s l ≠ answer Link.reader s' l' ∧
      answer Link.reader s l ≠ encodeReply .noDownloads ∧
      (Reply.downloadRow d).text.splitOn ' ' =
        ["#1".toList, "[http]".toList, "http://a/".toList, "(paused)".toList] := by
  intro d d' s s' l l'
  have hl : l.HasVerb .listDownloads := by decide
  have hl' : l'.HasVerb .listDownloads := by decide
  have hs : ∀ d ∈ s.queue.entries, d.link.Compact := by decide
  have hs' : ∀ d ∈ s'.queue.entries, d.link.Compact := by decide
  obtain ⟨htold, hnone, hrow⟩ := listing_faithful (k := Link.reader) hl hl' hs hs'
  refine ⟨⟨hl, hl'⟩, hs, hs', mt htold.1 (by decide), mt hnone.1 (by decide), ?_⟩
  exact (hrow d (List.mem_cons_self ..)).trans (by decide)

end Shell

end LinkCourier
