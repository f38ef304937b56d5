import Mathlib.Data.List.Basic
import LinkCourier.Proofs.Shell.Loading
import LinkCourier.Proofs.Shell.Queue
import LinkCourier.Proofs.Text.Blank
import LinkCourier.Proofs.Text.Decimal

/-!
Lines that cancel, pause or resume downloads by their numbers.

The arguments that are no numbers are reported first. Then there is one reply for each number,
which can be told from the queue before the line and from whether the line has named the number
already; and the entries that are named are changed, all others stay as they are.
-/

namespace LinkCourier

open Script

/-- What a line does to the downloads that it names. -/
inductive Change where
  | cancel
  | flag (paused : Bool)
  deriving DecidableEq, Repr

namespace Change

def verb : Change → Verb
  | .cancel => .cancel
  | .flag true => .pause
  | .flag false => .resume

/-- The call for one number. -/
def call : Change → ℕ → Call
  | .cancel, id => .cancel id
  | .flag paused, id => .setPaused id paused

/-- What becomes of an entry when some numbers are named; one of another number stays as it is. -/
def becomes (c : Change) (ids : List ℕ) (d : Download) : Option Download :=
  if d.id ∈ ids then
    match c with
    | .cancel => none
    | .flag paused => some { d with paused }
  else some d

/-- The entries that are left when some numbers are named. -/
def entries (c : Change) (ids : List ℕ) (ds : List Download) : List Download :=
  ds.filterMap (c.becomes ids)

/-- The store when the entries of some numbers are changed, and nothing else. -/
def store (c : Change) (ids : List ℕ) (s : Store) : Store :=
  { s with queue := { s.queue with entries := c.entries ids s.queue.entries } }

/-- What is said of a number that has this entry, if any, in the queue before the line; `again`
says that the line has named it already. -/
def told (c : Change) (id : ℕ) (again : Bool) : Option Download → Reply
  | none => .downloadUnknown c.verb id
  | some d => match c with
    | .cancel => if again then .downloadUnknown .cancel id else .cancelled id
    | .flag true => if again || d.paused then .alreadyPaused id else .paused id
    | .flag false => if again || !d.paused then .notPaused id else .resumed id

/-- In which words this is said. -/
def wording (c : Change) (id : ℕ) (again : Bool) : Option Download → Text
  | none => c.verb.name.toList ++ ": no such download #".toList ++ Decimal.digits id
  | some d => match c with
    | .cancel =>
      if again then "cancel".toList ++ ": no such download #".toList ++ Decimal.digits id
      else "Download #".toList ++ Decimal.digits id ++ " cancelled.".toList
    | .flag true => "Download #".toList ++ Decimal.digits id ++
      if again || d.paused then " already paused.".toList else " paused.".toList
    | .flag false => "Download #".toList ++ Decimal.digits id ++
      if again || !d.paused then " is not paused.".toList else " resumed.".toList

end Change

namespace Shell

/-- Behind any count of number signs the argument has a number of 64 bits, with a plus sign or
without. -/
def Names (arg : Text) (id : ℕ) : Prop :=
  ∃ k ds, (arg = List.replicate k '#' ++ ds ∨ arg = List.replicate k '#' ++ '+' :: ds) ∧
    Decimal.IsDigits ds ∧ Decimal.value ds = id ∧ id < UInt64.size

end Shell

variable {α : Type} {k : Link.Reader α} {c : Change} {s : Store} {q : Queue} {l : Line}
  {id : ℕ} {ids seen : List ℕ} {d e : Download} {ds : List Download}

/-! ### Entries -/

namespace Change

lemma id_of_becomes (h : c.becomes ids d = some e) : e.id = d.id := by
  unfold becomes at h
  split at h
  · cases c with
    | cancel => cases h
    | flag paused => rw [← Option.some.inj h]
  · rw [Option.some.inj h]

lemma entries_nil (c : Change) (ds : List Download) : c.entries [] ds = ds := by
  have hstays : c.becomes [] = some := by
    funext d
    simp [becomes]
  rw [entries, hstays, List.filterMap_some]

lemma entries_append (c : Change) (u v : List ℕ) (ds : List Download) :
    c.entries v (c.entries u ds) = c.entries (u ++ v) ds := by
  unfold entries
  rw [List.filterMap_filterMap]
  refine List.filterMap_congr fun d _ => ?_
  by_cases hu : d.id ∈ u <;> by_cases hv : d.id ∈ v <;> cases c <;> simp [becomes, hu, hv]

lemma store_nil (c : Change) (s : Store) : c.store [] s = s := by
  rw [store, entries_nil]

lemma sublist_entries (c : Change) (ids : List ℕ) (ds : List Download) :
    ((c.entries ids ds).map (·.id)).Sublist (ds.map (·.id)) := by
  unfold entries
  induction ds with
  | nil => exact .slnil
  | cons d ds ih =>
    rcases hd : c.becomes ids d with _ | e
    · rw [List.filterMap_cons_none hd]
      exact ih.cons _
    · rw [List.filterMap_cons_some hd, List.map_cons, List.map_cons, id_of_becomes hd]
      exact ih.cons_cons _

lemma ordered_store (h : s.queue.Ordered) (c : Change) (ids : List ℕ) :
    (c.store ids s).queue.Ordered :=
  h.of_sublist (c.sublist_entries ids s.queue.entries)

/-- One call changes the entry of its number only. -/
lemma call_run (h : s.queue.Ordered) (c : Change) (id : ℕ) :
    ((c.call id).run s).2 = c.store [id] s := by
  cases c with
  | cancel =>
    have hentries : cancel.entries [id] s.queue.entries = (s.queue.cancel id).2.entries := by
      rw [h.entries_cancel, ← List.filterMap_eq_filter]
      refine List.filterMap_congr fun d _ => ?_
      by_cases hid : d.id = id <;> simp [becomes, Option.guard, hid]
    rw [store, hentries]
    rfl
  | flag paused =>
    have hentries : (flag paused).entries [id] s.queue.entries =
        (s.queue.setPaused id paused).2.entries := by
      rw [h.entries_setPaused, ← List.filterMap_eq_map]
      refine List.filterMap_congr fun d _ => ?_
      by_cases hid : d.id = id <;> simp [becomes, Queue.flagged, hid]
    rw [store, hentries]
    rfl

/-- The entry of a number when some numbers have been named. -/
lemma get?_store (h : s.queue.Ordered) (c : Change) (seen : List ℕ) (id : ℕ) :
    (c.store seen s).queue.get? id =
      (s.queue.get? id).bind (c.becomes seen) := by
  ext e
  rw [(ordered_store h c seen).get?_eq_some_iff, Option.bind_eq_some_iff]
  simp only [store, entries, List.mem_filterMap, h.get?_eq_some_iff]
  constructor
  · rintro ⟨⟨d, hd, he⟩, rfl⟩
    exact ⟨d, ⟨hd, (id_of_becomes he).symm⟩, he⟩
  · rintro ⟨d, ⟨hd, rfl⟩, he⟩
    exact ⟨⟨d, hd, he⟩, id_of_becomes he⟩

/-- What is said of a number when others have been named, told from the queue before that. -/
lemma told_store (h : s.queue.Ordered) (c : Change) (seen : List ℕ) (id : ℕ) :
    c.told id false ((c.store seen s).queue.get? id) =
      c.told id (decide (id ∈ seen)) (s.queue.get? id) := by
  rw [get?_store h]
  rcases hd : s.queue.get? id with _ | d
  · rfl
  · obtain rfl : d.id = id := Queue.id_of_get? hd
    by_cases hid : d.id ∈ seen
    · rcases c with _ | _ | _ <;> simp [told, becomes, verb, hid]
    · simp [becomes, hid]

/-- The words that two replies have in common come first. -/
lemma text_ite {b : Bool} {r r' : Reply} {t u v : Text} (hr : r.text = t ++ u)
    (hr' : r'.text = t ++ v) : (if b then r else r').text = t ++ if b then u else v := by
  cases b with
  | true => exact hr
  | false => exact hr'

/-- **The text of the reply for one number.** -/
lemma text_told (c : Change) (id : ℕ) (again : Bool) (d : Option Download) :
    (c.told id again d).text = c.wording id again d := by
  rcases d with _ | d
  · exact Reply.text_downloadUnknown c.verb id
  rcases c with _ | _ | _
  · cases again with
    | true => exact Reply.text_downloadUnknown .cancel id
    | false => exact Reply.text_cancelled id
  · exact text_ite (Reply.text_notPaused id) (Reply.text_resumed id)
  · exact text_ite (Reply.text_alreadyPaused id) (Reply.text_paused id)

end Change

/-! ### Scripts -/

namespace Shell

/-- The script for one number makes the call of the change, and tells by the entry that the number
had before it. -/
def Changes (c : Change) (f : ℕ → Script Reply) : Prop :=
  ∀ s id, run s (f id) = ([c.told id false (s.queue.get? id)], ((c.call id).run s).2)

/-- One line changes the entries of its numbers one after the other. -/
lemma exists_script (h : l.HasVerb c.verb) :
    ∃ f, script k l = forIds c.verb l.args f ∧ Changes c f := by
  rw [script_of_hasVerb h]
  cases c with
  | cancel =>
    refine ⟨_, rfl, fun s id => ?_⟩
    simp only [run, Call.run, Queue.cancel]
    rcases hd : s.queue.get? id with _ | d
    · rfl
    · obtain rfl : d.id = id := Queue.id_of_get? hd
      rfl
  | flag paused =>
    cases paused with
    | true | false =>
      refine ⟨_, rfl, fun s id => ?_⟩
      simp only [run, Call.run, Queue.setPaused]
      rcases s.queue.get? id with _ | ⟨_, _, _, _ | _⟩ <;> rfl

/-- **All numbers of a line**, after those of `seen`. -/
lemma run_forEach {f : ℕ → Script Reply} (hf : Changes c f) (h : s.queue.Ordered)
    (seen ids : List ℕ) :
    run (c.store seen s) (forEach f ids) =
      (ids.mapIdx fun j id => c.told id (decide (id ∈ seen ++ ids.take j)) (s.queue.get? id),
        c.store (seen ++ ids) s) := by
  induction ids generalizing seen with
  | nil =>
    rw [List.append_nil]
    rfl
  | cons id ids ih =>
    have hnext : ((c.call id).run (c.store seen s)).2 = c.store (seen ++ [id]) s := by
      rw [Change.call_run (Change.ordered_store h c seen)]
      simp only [Change.store, Change.entries_append]
    rw [forEach, run_andThen, hf, hnext, ih, Change.told_store h, List.mapIdx_cons]
    simp

lemma execute_change_eq (h : s.queue.Ordered) (hverb : l.HasVerb c.verb) (hargs : l.args ≠ []) :
    execute k s l =
      (badIds c.verb l.args ++ (l.args.filterMap readId).mapIdx fun j id =>
          c.told id (decide (id ∈ (l.args.filterMap readId).take j)) (s.queue.get? id),
        c.store (l.args.filterMap readId) s) := by
  obtain ⟨f, hscript, hf⟩ := exists_script (k := k) hverb
  have hrun := run_forEach hf h [] (l.args.filterMap readId)
  rw [Change.store_nil] at hrun
  rw [execute, hscript, forIds, if_neg hargs, run_andThen, run_replies]
  simp only [hrun, List.nil_append]

/-! ### Arguments -/

lemma dropWhile_signs {t : Text} (k : ℕ) (h : t.head? ≠ some '#') :
    (List.replicate k '#' ++ t).dropWhile (· == '#') = t := by
  have hsigns : ∀ c ∈ List.replicate k '#', (c == '#') = true := by simp
  rw [List.dropWhile_append_of_pos hsigns]
  cases t with
  | nil => rfl
  | cons c t =>
    have hc : ¬ (c == '#') = true := by simpa using h
    exact List.dropWhile_cons_of_neg hc

/-- **What names a download.** -/
lemma readId_eq_some_iff {arg : Text} : readId arg = some id ↔ Names arg id := by
  rw [readId, Decimal.readBelow_eq_some_iff]
  constructor
  · rintro ⟨ds, hds, hdigits, hvalue, hlt⟩
    have hsigns : arg.takeWhile (· == '#') =
        List.replicate (arg.takeWhile (· == '#')).length '#' := by
      rw [List.eq_replicate_iff]
      exact ⟨rfl, fun c hc => by simpa using List.mem_takeWhile_imp hc⟩
    have hsplit : arg.takeWhile (· == '#') ++ arg.dropWhile (· == '#') = arg :=
      List.takeWhile_append_dropWhile
    rw [hsigns] at hsplit
    refine ⟨(arg.takeWhile (· == '#')).length, ds, ?_, hdigits, hvalue, hlt⟩
    rcases hds with hds | hds
    · exact .inl (by rw [← hds, hsplit])
    · exact .inr (by rw [← hds, hsplit])
  · rintro ⟨k, ds, hds, hdigits, hvalue, hlt⟩
    obtain ⟨c, ds, rfl⟩ := List.exists_cons_of_ne_nil hdigits.1
    have hc : (c :: ds).head? ≠ some '#' := by
      rw [List.head?_cons, ne_eq, Option.some.injEq]
      rintro rfl
      exact absurd (hdigits.2 '#' List.mem_cons_self) (by decide)
    refine ⟨c :: ds, ?_, hdigits, hvalue, hlt⟩
    rcases hds with rfl | rfl
    · exact .inl (dropWhile_signs k hc)
    · exact .inr (dropWhile_signs k (by simp))

lemma names_numbered (h : id < UInt64.size) : Names (Reply.numbered id) id :=
  ⟨1, Decimal.digits id, .inl rfl, Decimal.isDigits_digits id, Decimal.value_digits id, h⟩

/-- The row of a download begins with its number. -/
lemma head?_words_row (d : Download) :
    (Text.words (Reply.downloadRow d).text).head? = some (Reply.numbered d.id) := by
  have hdigits : ∀ c ∈ Decimal.digits d.id, Text.isAsciiBlank c = false := by
    intro c hc
    have hdigit := (Decimal.isDigits_digits d.id).2 c hc
    rw [Bool.eq_false_iff]
    intro hblank
    simp only [Text.isAsciiBlank, Bool.or_eq_true, beq_iff_eq] at hblank
    obtain (((rfl | rfl) | rfl) | rfl) | rfl := hblank <;> exact absurd hdigit (by decide)
  have hnumbered : (Reply.numbered d.id).any Text.isAsciiBlank = false := by
    rw [Reply.numbered, List.any_cons, Bool.or_eq_false_iff]
    exact ⟨by decide, List.any_eq_false.2 fun c hc => by simp [hdigits c hc]⟩
  have hblank : " [".toList = ' ' :: ['['] := by decide
  have hrow : (Reply.downloadRow d).text = Reply.downloadText d := rfl
  rw [hrow, Reply.downloadText, hblank]
  simp only [List.append_assoc, List.cons_append]
  rw [Text.words_append_cons (by simp [Reply.numbered]) hnumbered (by decide), List.head?_cons]

lemma mem_listed (h : d ∈ s.queue.entries) (hverb : l.HasVerb .listDownloads) :
    .downloadRow d ∈ (execute k s l).1 := by
  rw [execute, script_of_hasVerb hverb]
  obtain ⟨e, ds, hentries⟩ := List.exists_cons_of_ne_nil (List.ne_nil_of_mem h)
  simp only [listDownloads, run, Call.run, hentries, run_replies]
  exact List.mem_map_of_mem (hentries ▸ h)

/-- **Lines that cancel, pause or resume.** First come the arguments that name no download, in
order; then there is one reply for each number, in order, by the entry that it has in the queue and
by whether the line has named it already; and each is in its words. The entries that are named are
changed, and nothing else is. The first word of the row of a download names it and no other; alone
in a line it changes this entry. -/
theorem execute_change (h : s.queue.Ordered) (hlast : s.queue.lastId < UInt64.size)
    (hverb : l.HasVerb c.verb) (hargs : l.args ≠ []) :
    let ids := l.args.filterMap readId
    (∀ arg id, readId arg = some id ↔ Names arg id) ∧
      execute k s l =
        ((l.args.filter fun a => (readId a).isNone).map (.badId c.verb) ++
            ids.mapIdx fun j id => c.told id (decide (id ∈ ids.take j)) (s.queue.get? id),
          c.store ids s) ∧
      (execute k s l).1.map Reply.text =
        (l.args.filter fun a => (readId a).isNone).map (fun a =>
            c.verb.name.toList ++ ": invalid download id '".toList ++ a ++ "'".toList) ++
          ids.mapIdx (fun j id => c.wording id (decide (id ∈ ids.take j)) (s.queue.get? id)) ∧
      ∀ d ∈ s.queue.entries,
        (∀ l' : Line, l'.HasVerb .listDownloads → .downloadRow d ∈ (execute k s l').1) ∧
          (Text.words (Reply.downloadRow d).text).head? = some (Reply.numbered d.id) ∧
          (∀ e ∈ s.queue.entries, Names (Reply.numbered d.id) e.id ↔ e = d) ∧
          ∀ l' : Line, l'.HasVerb c.verb → l'.args = [Reply.numbered d.id] →
            execute k s l' = ([c.told d.id false (some d)], c.store [d.id] s) := by
  intro ids
  refine ⟨fun arg id => readId_eq_some_iff, execute_change_eq h hverb hargs, ?_, fun d hd => ?_⟩
  · rw [execute_change_eq h hverb hargs, badIds, List.map_append, List.map_map,
      List.mapIdx_eq_zipIdx_map, List.mapIdx_eq_zipIdx_map, List.map_map]
    exact congrArg (_ ++ ·) (List.map_congr_left fun p _ => Change.text_told ..)
  have hsize : d.id < UInt64.size := Nat.lt_of_le_of_lt (h.given d hd) hlast
  have hread : readId (Reply.numbered d.id) = some d.id :=
    readId_eq_some_iff.2 (names_numbered hsize)
  refine ⟨fun l' hl' => mem_listed hd hl', head?_words_row d, fun e he => ?_,
    fun l' hl' hargs' => ?_⟩
  · rw [← readId_eq_some_iff, hread, Option.some.injEq]
    constructor
    · exact fun hid => h.eq_of_id he hd hid.symm
    · rintro rfl
      rfl
  · have hids : l'.args.filterMap readId = [d.id] := by simp [hargs', hread]
    have hbad : badIds c.verb l'.args = [] := by simp [badIds, hargs', hread]
    have hget : s.queue.get? d.id = some d := h.get?_eq_some_iff.2 ⟨hd, rfl⟩
    have hne : l'.args ≠ [] := by simp [hargs']
    rw [execute_change_eq h hl' hne, hids, hbad]
    simp [hget]

/-- Arguments that are no numbers, and a number in three spellings; a download that is named twice
to be cancelled. -/
theorem execute_change_repeated :
    let s : Store := ⟨{}, ⟨4, [⟨1, ['a'], .http, false⟩, ⟨2, ['b'], .ftp, true⟩,
      ⟨4, ['c'], .http, false⟩]⟩⟩
    let l : Line := ⟨"pause ##2 x +4 004 18446744073709551616 # #4 7".toList,
      Line.unbroken_of_any rfl⟩
    let l' : Line := ⟨"cancel #4 1 4".toList, Line.unbroken_of_any rfl⟩
    s.queue.Ordered ∧ s.queue.lastId < UInt64.size ∧ (l.HasVerb .pause ∧ l.args ≠ []) ∧
      (l'.HasVerb .cancel ∧ l'.args ≠ []) ∧
      execute Link.reader s l = ([.badId .pause ['x'],
          .badId .pause "18446744073709551616".toList, .badId .pause ['#'], .alreadyPaused 2,
          .paused 4, .alreadyPaused 4, .alreadyPaused 4, .downloadUnknown .pause 7],
        ⟨{}, ⟨4, [⟨1, ['a'], .http, false⟩, ⟨2, ['b'], .ftp, true⟩, ⟨4, ['c'], .http, true⟩]⟩⟩) ∧
      execute Link.reader s l' = ([.cancelled 4, .cancelled 1, .downloadUnknown .cancel 4],
        ⟨{}, ⟨4, [⟨2, ['b'], .ftp, true⟩]⟩⟩) ∧
      (execute Link.reader s l').1.map Reply.text = ["Download #4 cancelled.".toList,
        "Download #1 cancelled.".toList, "cancel: no such download #4".toList] := by
  intro s l l'
  have h : s.queue.Ordered := ⟨by decide, by decide, by decide⟩
  have hlast : s.queue.lastId < UInt64.size := by decide
  have hl : l.HasVerb .pause ∧ l.args ≠ [] := by decide
  have hl' : l'.HasVerb .cancel ∧ l'.args ≠ [] := by decide
  obtain ⟨-, hpause, -, -⟩ :=
    execute_change (k := Link.reader) (c := .flag true) h hlast hl.1 hl.2
  obtain ⟨-, hcancel, htexts, -⟩ :=
    execute_change (k := Link.reader) (c := .cancel) h hlast hl'.1 hl'.2
  refine ⟨h, hlast, hl, hl', hpause.trans ?_, hcancel.trans ?_,
    htexts.trans ?_⟩
  · decide +kernel
  · decide +kernel
  · decide +kernel

end Shell

end LinkCourier
