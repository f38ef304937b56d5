import Mathlib.Data.List.Basic
import LinkCourier.Proofs.Framing.Normal
import LinkCourier.Proofs.Framing.Reuse
import LinkCourier.Proofs.Shell.Plain
import LinkCourier.Proofs.Text.Blank

/-!
The answer to a command. The terminators between the replies are the only line breaks in it, and
how many replies a line has can be told from the line and from the store it runs on. A line that
has been received has one at least.
-/

namespace LinkCourier.Shell

open Script Text

variable {α : Type} {k : Link.Reader α} {s : Store}

/-- How many replies a line has on a store. -/
def replyCount (s : Store) (l : Line) : ℕ :=
  match l.verb? with
  | none => 0
  | some verb => match Verb.ofName? verb with
    | some .load => max 1 l.args.length
    | some .unload => max 1 l.args.length
    | some .listLoaded => max 1 s.modules.toList.length
    | some .download => 1
    | some .listDownloads => max 1 s.queue.entries.length
    | some .cancel => max 1 l.args.length
    | some .pause => max 1 l.args.length
    | some .resume => max 1 l.args.length
    | some .help => 10
    | none => 1

/-- The lines of a command, each with the store it runs on. -/
def turns (k : Link.Reader α) (s : Store) : List Line → List (Store × Line)
  | [] => []
  | l :: ls => (s, l) :: turns k (execute k s l).2 ls

/-- The texts that a line is answered with. -/
def said (k : Link.Reader α) (s : Store) (l : Line) : List Text :=
  (execute k s l).1.map Reply.text

/-- Texts, each followed by a terminator. -/
def framed (ts : List Text) : Bytes := ts.flatMap fun t => encode t ++ Framing.terminator

/-- A command that has been read from a buffer or from a stream. -/
def Received (c : Command) : Prop :=
  (∃ w, Framing.decodeCommand w = .ok c) ∨
    ∃ (x : Framing.Codec) (as : List Framing.Arrival),
      (x.readCommand as).1.answer = .done (.ok (some c))

/-! ### Counting -/

lemma length_call {c : Call} {next : c.Result → Script Reply}
    (hnext : ∀ a s, ((next a).run s).1.length = 1) (s : Store) :
    ((Script.call c next).run s).1.length = 1 :=
  hnext (c.run s).1 (c.run s).2

lemma length_forEach {β : Type} {f : β → Script Reply}
    (hf : ∀ b s, ((f b).run s).1.length = 1) (bs : List β) (s : Store) :
    ((forEach f bs).run s).1.length = bs.length := by
  induction bs generalizing s with
  | nil => rfl
  | cons b bs ih =>
    rw [forEach, run_andThen, List.length_append, hf b s, ih, List.length_cons]
    omega

/-- One reply if there is nothing to do, and one for each of several things otherwise. -/
lemma length_orUsage {β : Type} {usage : Reply} {x : Script Reply} {bs : List β} [DecidableEq β]
    (hx : bs ≠ [] → (x.run s).1.length = bs.length) :
    ((if bs = [] then replies [usage] else x).run s).1.length = max 1 bs.length := by
  split
  · rename_i h
    rw [run_replies, h]
    rfl
  · rename_i h
    have hpos : 0 < bs.length := List.length_pos_iff.2 h
    rw [hx h]
    omega

lemma length_listModules (s : Store) :
    (listModules.run s).1.length = max 1 s.modules.toList.length := by
  rcases hrows : s.modules.toList with _ | ⟨m, ms⟩
  · simp [listModules, run, Call.run, hrows]
  · simp only [listModules, run, Call.run, hrows, run_replies, List.length_map, List.length_cons]
    omega

lemma length_listDownloads (s : Store) :
    (listDownloads.run s).1.length = max 1 s.queue.entries.length := by
  rcases hrows : s.queue.entries with _ | ⟨d, ds⟩
  · simp [listDownloads, run, Call.run, hrows]
  · simp only [listDownloads, run, Call.run, hrows, run_replies, List.length_map, List.length_cons]
    omega

lemma length_download (k : Link.Reader α) (link : Text) (s : Store) :
    ((download k link).run s).1.length = 1 := by
  unfold download
  split
  · rw [run_replies, List.length_singleton]
  split
  · rw [run_replies, List.length_singleton]
  split
  · rw [run_replies, List.length_singleton]
  · rename_i m _
    rw [run, Call.run]
    cases s.modules.has m with
    | false => simp only [run_replies, List.length_singleton]
    | true => simp only [run, run_replies, List.length_singleton]

/-- Every argument is a number or is reported. -/
lemma length_readId (v : Verb) (args : List Text) :
    (badIds v args).length + (args.filterMap readId).length = args.length := by
  unfold badIds
  induction args with
  | nil => rfl
  | cons a args ih =>
    rw [List.length_map] at ih ⊢
    cases ha : readId a with
    | none =>
      have hbad : (readId a).isNone = true := by rw [ha, Option.isNone_none]
      rw [List.filter_cons, if_pos hbad, List.filterMap_cons_none ha, List.length_cons,
        List.length_cons]
      omega
    | some id =>
      have hgood : ¬ (readId a).isNone = true := by simp [ha]
      rw [List.filter_cons, if_neg hgood, List.filterMap_cons_some ha, List.length_cons,
        List.length_cons]
      omega

lemma length_forIds (v : Verb) (args : List Text) {f : ℕ → Script Reply}
    (hf : ∀ id s, ((f id).run s).1.length = 1) (s : Store) :
    ((forIds v args f).run s).1.length = max 1 args.length := by
  refine length_orUsage fun _ => ?_
  rw [run_andThen, run_replies, List.length_append, length_forEach hf, length_readId]

/-- **How many replies a line has.** -/
lemma length_execute (k : Link.Reader α) (s : Store) (l : Line) :
    (execute k s l).1.length = replyCount s l := by
  rcases hverb : l.verb? with _ | verb
  · simp only [execute, script, replyCount, hverb, run, List.length_nil]
  rcases hv : Verb.ofName? verb with _ | v
  · simp only [execute, script, replyCount, hverb, hv, run_replies, List.length_singleton]
  cases v
  all_goals simp only [execute, script, replyCount, hverb, hv]
  case load =>
    refine length_orUsage fun _ => length_forEach (fun name => length_call fun a _ => ?_) _ s
    rcases a with _ | _ | _ <;> rfl
  case unload =>
    refine length_orUsage fun _ => length_forEach (fun name => length_call fun a _ => ?_) _ s
    rcases a with _ | _ <;> rfl
  case listLoaded => exact length_listModules s
  case download => exact length_download k l.rest s
  case listDownloads => exact length_listDownloads s
  case cancel =>
    refine length_forIds .cancel _ (fun id => length_call fun a _ => ?_) s
    rcases a with _ | d <;> rfl
  case pause =>
    refine length_forIds .pause _ (fun id => length_call fun a _ => ?_) s
    rcases a with _ | _ | _ <;> rfl
  case resume =>
    refine length_forIds .resume _ (fun id => length_call fun a _ => ?_) s
    rcases a with _ | _ | _ <;> rfl
  case help => rfl

lemma executeAll_eq_flatMap (k : Link.Reader α) (s : Store) (ls : List Line) :
    (executeAll k s ls).1 = (turns k s ls).flatMap fun p => (execute k p.1 p.2).1 := by
  induction ls generalizing s with
  | nil => rfl
  | cons l ls ih => rw [executeAll, turns, List.flatMap_cons, ← ih]

/-! ### Framing -/

/-- A terminator follows even an empty text. -/
lemma framed_eq_nil_iff {ts : List Text} : framed ts = [] ↔ ts = [] := by
  cases ts with
  | nil => simp [framed]
  | cons t ts => simp [framed, Framing.terminator]

lemma respond_eq_framed (k : Link.Reader α) (s : Store) (c : Command) :
    (respond k s c).1 = framed ((executeAll k s c.lines).1.map Reply.text) := by
  unfold respond framed
  rw [List.flatMap_map]
  rfl

lemma texts_executeAll (k : Link.Reader α) (s : Store) (ls : List Line) :
    (executeAll k s ls).1.map Reply.text = ((turns k s ls).map fun p => said k p.1 p.2).flatten := by
  rw [executeAll_eq_flatMap, List.map_flatMap, List.flatMap_def]
  rfl

/-! ### Lines with and without a verb -/

lemma replyCount_eq_zero_iff {l : Line} : replyCount s l = 0 ↔ l.verb? = none := by
  rcases hverb : l.verb? with _ | verb
  · simp [replyCount, hverb]
  rcases hv : Verb.ofName? verb with _ | v
  · simp [replyCount, hverb, hv]
  · cases v <;> simp [replyCount, hverb, hv]

lemma execute_of_verb?_eq_none {l : Line} (h : l.verb? = none) : execute k s l = ([], s) := by
  simp only [execute, script, h, run]

/-- If nothing is replied to some lines, none has a verb, and nothing has been done. -/
lemma executeAll_eq_nil {ls : List Line} (h : (executeAll k s ls).1 = []) :
    (∀ l ∈ ls, l.verb? = none) ∧ (executeAll k s ls).2 = s := by
  induction ls with
  | nil => exact ⟨nofun, rfl⟩
  | cons l ls ih =>
    rw [executeAll] at h
    obtain ⟨hline, hrest⟩ := List.append_eq_nil_iff.1 h
    have hverb : l.verb? = none := by
      rw [← replyCount_eq_zero_iff (s := s), ← length_execute k, hline, List.length_nil]
    rw [execute_of_verb?_eq_none hverb] at hrest
    obtain ⟨hverbs, hstore⟩ := ih hrest
    refine ⟨List.forall_mem_cons.2 ⟨hverb, hverbs⟩, ?_⟩
    rw [executeAll, execute_of_verb?_eq_none hverb]
    exact hstore

/-- White space beyond ASCII is no blank between words, so that a line with anything else in it
has a word. -/
lemma verb?_ne_none {l : Line} (h : l.isBlank = false) : l.verb? ≠ none := by
  intro hverb
  have hwords : Text.words l.text = [] := List.head?_eq_none_iff.1 hverb
  have hblank : Text.isBlankText l.text = true :=
    Text.isBlankText_iff.2 fun c hc => isBlank_of_isAsciiBlank (words_eq_nil_iff.1 hwords c hc)
  rw [Line.isBlank, hblank] at h
  cases h

lemma Received.isBlank {c : Command} (h : Received c) : ∀ l ∈ c.lines, l.isBlank = false := by
  rcases h with ⟨w, hw⟩ | ⟨x, as, hx⟩
  · exact fun l hl => (Framing.normal_of_decodeCommand hw l hl).notBlank
  · have hlim : x.limit.toNat + 1 < UInt64.size := by
      by_contra hmax
      rw [Framing.readCommand_largest hmax] at hx
      cases hx
    rw [← Framing.Codec.readCommand_rewind hlim] at hx
    have hwhole := (Framing.readCommand_eq_some_iff.1 hx).whole
    exact fun l hl => (hwhole.normal l hl).notBlank

lemma length_le_of_verbs {ls : List Line} (h : ∀ l ∈ ls, l.verb? ≠ none) (s : Store) :
    ls.length ≤ (executeAll k s ls).1.length := by
  induction ls generalizing s with
  | nil => exact Nat.zero_le _
  | cons l ls ih =>
    obtain ⟨hl, hls⟩ := List.forall_mem_cons.1 h
    have hpos : replyCount s l ≠ 0 := fun h0 => hl (replyCount_eq_zero_iff.1 h0)
    have hrest := ih hls (execute k s l).2
    rw [executeAll, List.length_append, length_execute, List.length_cons]
    omega

/-- **The answer to a command is framed and complete.** It is made of texts without line breaks,
each followed by a terminator; each line has as many of them as its words and the store it runs
on say; and if there are none, no line has a verb and nothing has been done, which is the case
of no command that has been received. -/
theorem respond_framed (hk : k.Unbroken) (hs : s.Reachable k) (c : Command) :
    let texts := (turns k s c.lines).map fun p => said k p.1 p.2
    (respond k s c).1 = framed texts.flatten ∧
      (∀ t ∈ texts.flatten, '\r' ∉ t ∧ '\n' ∉ t) ∧
      texts.map List.length = (turns k s c.lines).map (fun p => replyCount p.1 p.2) ∧
      ((respond k s c).1 = [] → (∀ l ∈ c.lines, l.verb? = none) ∧ (respond k s c).2 = s) ∧
      (Received c → (respond k s c).1 ≠ [] ∧ c.lines.length ≤ texts.flatten.length) := by
  intro texts
  have htexts : texts.flatten = (executeAll k s c.lines).1.map Reply.text :=
    (texts_executeAll k s c.lines).symm
  have hanswer : (respond k s c).1 = framed texts.flatten := by
    rw [htexts, respond_eq_framed]
  refine ⟨hanswer, fun t ht => ?_, ?_, fun hnil => ?_, fun hc => ?_⟩
  · rw [htexts] at ht
    obtain ⟨r, hr, rfl⟩ := List.mem_map.1 ht
    exact unbroken_iff.1 ((plain_executeAll hk hs c.lines).2 r hr).unbroken
  · rw [List.map_map]
    refine List.map_congr_left fun p _ => ?_
    exact (List.length_map _).trans (length_execute k p.1 p.2)
  · rw [hanswer, framed_eq_nil_iff, htexts, List.map_eq_nil_iff] at hnil
    exact executeAll_eq_nil hnil
  · have hverbs : ∀ l ∈ c.lines, l.verb? ≠ none := fun l hl => verb?_ne_none (hc.isBlank l hl)
    have hlength : c.lines.length ≤ texts.flatten.length := by
      rw [htexts, List.length_map]
      exact length_le_of_verbs hverbs s
    refine ⟨fun hnil => ?_, hlength⟩
    rw [hanswer, framed_eq_nil_iff] at hnil
    rw [hnil] at hlength
    exact c.nonempty (List.length_eq_zero_iff.1 (Nat.le_zero.1 hlength))

/-- What is listed changes between the first line and the third; a name with a quote in it and a
number that is none are repeated. -/
theorem respond_framed_queue :
    let s := (executeAll Link.reader {} [⟨"modprobe ftp http".toList, Line.unbroken_of_any rfl⟩,
      ⟨"do http://a/x".toList, Line.unbroken_of_any rfl⟩]).2
    let c : Command := ⟨[⟨"lsmod".toList, Line.unbroken_of_any rfl⟩,
      ⟨"rmmod ftp x'".toList, Line.unbroken_of_any rfl⟩, ⟨"lsmod".toList, Line.unbroken_of_any rfl⟩,
      ⟨"cancel y #1".toList, Line.unbroken_of_any rfl⟩,
      ⟨"vd".toList, Line.unbroken_of_any rfl⟩], by decide⟩
    let texts := (turns Link.reader s c.lines).map fun p => said Link.reader p.1 p.2
    Link.reader.Unbroken ∧ s.Reachable Link.reader ∧ Received c ∧
      (respond Link.reader s c).1 = framed texts.flatten ∧
      (∀ t ∈ texts.flatten, '\r' ∉ t ∧ '\n' ∉ t) ∧
      texts.map List.length = [2, 2, 1, 2, 1] ∧ (respond Link.reader s c).1 ≠ [] := by
  intro s c texts
  have hs : s.Reachable Link.reader := (plain_executeAll Link.unbroken_reader .new _).1
  have hc : Received c := .inl ⟨Framing.encodeCommand c, by decide +kernel⟩
  have h := respond_framed Link.unbroken_reader hs c
  have hcount : (turns Link.reader s c.lines).map (fun p => replyCount p.1 p.2) =
      [2, 2, 1, 2, 1] := by
    decide +kernel
  exact ⟨Link.unbroken_reader, hs, hc, h.1, h.2.1, h.2.2.1.trans hcount, (h.2.2.2.2 hc).1⟩

end LinkCourier.Shell
