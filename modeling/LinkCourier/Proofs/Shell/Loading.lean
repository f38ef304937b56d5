import Mathlib.Data.List.Basic
import LinkCourier.Proofs.Shell.Scripts

/-!
Which modules are loaded and which links are accepted, read off the lines executed so far.

A module is loaded if the last line to mention it was to load it, whatever else has been
executed. A link is accepted if it can be read and the module of its scheme is loaded in that
sense; a line that asks for any other link changes nothing.
-/

namespace LinkCourier

/-! ### Mentions -/

/-- The name of a module in a line that loads or unloads modules. -/
structure Mention where
  name : Text
  loads : Bool
  deriving DecidableEq

namespace Mention

/-- The last of the mentions that names the module. -/
def last (es : List Mention) (m : Module) : Option Mention :=
  (es.filter (m.name.toList = ·.name)).getLast?

lemma last_cons (e : Mention) (es : List Mention) (m : Module) :
    last (e :: es) m = if m.name.toList = e.name then some ((last es m).getD e) else last es m := by
  by_cases he : m.name.toList = e.name
  · rw [last, List.filter_cons_of_pos (by simpa using he), List.getLast?_cons, if_pos he, last]
  · rw [last, List.filter_cons_of_neg (by simpa using he), if_neg he, last]

end Mention

namespace Modules

def mention (s : Modules) (e : Mention) : Modules :=
  if e.loads then (s.load e.name).2 else (s.unload e.name).2

/-- A mention decides about the module that it names, and about no other. -/
lemma has_mention (s : Modules) (e : Mention) (m : Module) :
    (s.mention e).has m = if m.name.toList = e.name then e.loads else s.has m := by
  have hname : Module.ofName? e.name = some m ↔ m.name.toList = e.name := by
    constructor
    · exact Module.name_of_ofName?
    · intro h
      rw [← h, Module.ofName?_name]
  obtain ⟨name, loads⟩ := e
  simp only at hname
  cases loads <;> simp only [mention, load, unload, ← hname] <;>
    rcases Module.ofName? name with _ | n <;> simp [eq_comm]

/-- The last mention of a module decides about it. -/
lemma has_foldl_mention (s : Modules) (es : List Mention) (m : Module) :
    (es.foldl mention s).has m = ((Mention.last es m).map (·.loads)).getD (s.has m) := by
  induction es generalizing s with
  | nil => rfl
  | cons e es ih =>
    rw [List.foldl_cons, ih, has_mention, Mention.last_cons]
    by_cases he : m.name.toList = e.name
    · rw [if_pos he, if_pos he]
      rcases Mention.last es m with _ | f <;> rfl
    · rw [if_neg he, if_neg he]

/-- The loaded modules are listed by name. -/
lemma toList_sorted (s : Modules) : (s.toList.map Module.name).Pairwise (· < ·) := by
  have hsorted : (Module.sorted.map Module.name).Pairwise (· < ·) := by decide
  exact hsorted.sublist (List.filter_sublist.map _)

end Modules

/-- The replies to a link that is not accepted. -/
def Reply.IsRefusal : Reply → Prop
  | .usage v => v = .download
  | .badLink _ _ => True
  | .badScheme _ => True
  | .moduleMissing _ => True
  | _ => False

namespace Shell

open Script

/-- What a line has to say about modules. -/
def mentions (l : Line) : List Mention :=
  if l.HasVerb .load then l.args.map fun name => ⟨name, true⟩
  else if l.HasVerb .unload then l.args.map fun name => ⟨name, false⟩
  else []

/-- The last mention of the module was to load it. -/
def Loaded (ls : List Line) (m : Module) : Prop :=
  (Mention.last (ls.flatMap mentions) m).any (·.loads)

instance (ls : List Line) (m : Module) : Decidable (Loaded ls m) :=
  inferInstanceAs (Decidable (_ = true))

/-- The line asks for the link `u` of the module `m`, which is loaded by the lines before. -/
structure Accepts {α : Type} (k : Link.Reader α) (before : List Line) (l : Line) (u : α)
    (m : Module) : Prop where
  rest : l.rest ≠ []
  parsed : k.parse l.rest = .ok u
  scheme : Module.ofScheme? (k.scheme u) = some m
  loaded : Loaded before m

/-- Why the line is not accepted after the lines before, in the words in which this is said. -/
inductive Refuses {α : Type} (k : Link.Reader α) (before : List Line) (l : Line) : Text → Prop where
  | noLink (h : l.rest = []) : Refuses k before l "Syntax: do <link>".toList
  | badLink {reason : Text} (hrest : l.rest ≠ []) (h : k.parse l.rest = .error reason) :
    Refuses k before l ("do: invalid link '".toList ++ l.rest ++ "': ".toList ++ reason)
  | badScheme {u : α} (hrest : l.rest ≠ []) (hparsed : k.parse l.rest = .ok u)
    (h : Module.ofScheme? (k.scheme u) = none) :
    Refuses k before l ("do: unsupported scheme '".toList ++ k.scheme u ++ "'".toList)
  | moduleMissing {u : α} {m : Module} (hrest : l.rest ≠ []) (hparsed : k.parse l.rest = .ok u)
    (hscheme : Module.ofScheme? (k.scheme u) = some m) (h : ¬ Loaded before m) :
    Refuses k before l ("do: module '".toList ++ m.name.toList ++
      "' is not loaded (try 'modprobe ".toList ++ m.name.toList ++ "')".toList)

variable {α : Type} {k : Link.Reader α} {l : Line} {s : Store}

/-! ### The modules after some lines -/

/-- A script for each of several names, each of which mentions its name. -/
lemma modules_run_forEach {f : Text → Script Reply} {loads : Bool}
    (hf : ∀ s name, (run s (f name)).2.modules = s.modules.mention ⟨name, loads⟩) (s : Store)
    (names : List Text) :
    (run s (forEach f names)).2.modules =
      (names.map fun name => ⟨name, loads⟩).foldl Modules.mention s.modules := by
  induction names generalizing s with
  | nil => rfl
  | cons name names ih =>
    rw [forEach, run_andThen, ih, hf]
    rfl

lemma modules_run_loadModules (s : Store) (names : List Text) :
    (run s (loadModules names)).2.modules =
      (names.map fun name => ⟨name, true⟩).foldl Modules.mention s.modules := by
  rw [loadModules]
  split
  · rename_i hnames
    rw [hnames]
    rfl
  · refine modules_run_forEach (fun s name => ?_) s names
    simp only [run, Call.run]
    split <;> rfl

lemma modules_run_unloadModules (s : Store) (names : List Text) :
    (run s (unloadModules names)).2.modules =
      (names.map fun name => ⟨name, false⟩).foldl Modules.mention s.modules := by
  rw [unloadModules]
  split
  · rename_i hnames
    rw [hnames]
    rfl
  · refine modules_run_forEach (fun s name => ?_) s names
    simp only [run, Call.run]
    split <;> rfl

lemma script_of_hasVerb {v : Verb} (h : l.HasVerb v) :
    script k l = match v with
      | .load => loadModules l.args
      | .unload => unloadModules l.args
      | .listLoaded => listModules
      | .download => download k l.rest
      | .listDownloads => listDownloads
      | .cancel => cancelDownloads l.args
      | .pause => pauseDownloads l.args
      | .resume => resumeDownloads l.args
      | .help => help := by
  rw [Line.HasVerb] at h
  rw [script, h]
  simp only [Verb.ofName?_name]
  cases v <;> rfl

/-- A line changes the modules by what it mentions, and by nothing else. -/
lemma modules_execute (k : Link.Reader α) (s : Store) (l : Line) :
    (execute k s l).2.modules = (mentions l).foldl Modules.mention s.modules := by
  rw [execute]
  by_cases hload : l.HasVerb .load
  · rw [script_of_hasVerb hload, mentions, if_pos hload]
    exact modules_run_loadModules s l.args
  by_cases hunload : l.HasVerb .unload
  · rw [script_of_hasVerb hunload, mentions, if_neg hload, if_pos hunload]
    exact modules_run_unloadModules s l.args
  · have hframe (c : Call) (s : Store) (hc : l.HasVerb c.verb) :
        (c.run s).2.modules = s.modules := by
      cases c with
      | load name => exact absurd hc hload
      | unload name => exact absurd hc hunload
      | loaded | has | push | list | cancel | setPaused => rfl
    rw [mentions, if_neg hload, if_neg hunload]
    exact (candid_script k l).faithful.frame Store.modules hframe s

lemma modules_executeAll (k : Link.Reader α) (s : Store) (ls : List Line) :
    (executeAll k s ls).2.modules = (ls.flatMap mentions).foldl Modules.mention s.modules := by
  induction ls generalizing s with
  | nil => rfl
  | cons l ls ih => rw [executeAll, ih, modules_execute, List.flatMap_cons, List.foldl_append]

/-- From a new shell on, a module is loaded if the last line to mention it was to load it. -/
lemma has_executeAll (k : Link.Reader α) (ls : List Line) (m : Module) :
    (executeAll k {} ls).2.modules.has m ↔ Loaded ls m := by
  rw [modules_executeAll, Modules.has_foldl_mention, Loaded]
  rcases Mention.last (ls.flatMap mentions) m with _ | e
  · cases m <;> simp [Modules.has]
  · simp

/-! ### Links -/

/-- Lines of other verbs leave the queue alone. -/
lemma queue_execute (k : Link.Reader α) (s : Store)
    (h : ∀ v ∈ [.download, .cancel, .pause, .resume], ¬ l.HasVerb v) :
    (execute k s l).2.queue = s.queue := by
  have hframe (c : Call) (s : Store) (hc : l.HasVerb c.verb) : (c.run s).2.queue = s.queue := by
    cases c with
    | push link m => exact absurd hc (h .download (by simp))
    | cancel id => exact absurd hc (h .cancel (by simp))
    | setPaused id flag =>
      cases flag with
      | true => exact absurd hc (h .pause (by simp))
      | false => exact absurd hc (h .resume (by simp))
    | load | unload | loaded | has | list => rfl
  exact (candid_script k l).faithful.frame Store.queue hframe s

lemma execute_download (h : l.HasVerb .download) :
    execute k s l = (download k l.rest).run s := by
  rw [execute, script_of_hasVerb h]

variable {before : List Line} {u : α} {m : Module}

section

/-! The modules are those that are loaded by the lines before. -/

variable (hs : ∀ m, s.modules.has m = true ↔ Loaded before m)

include hs

lemma execute_of_accepts (h : l.HasVerb .download) (hu : Accepts k before l u m) :
    execute k s l = ([.queued s.queue.nextId (k.text u)],
      { s with queue := (s.queue.push (k.text u) m).2 }) := by
  have hhas : s.modules.has m = true := (hs m).2 hu.loaded
  rw [execute_download h, download, if_neg hu.rest, hu.parsed]
  simp only [hu.scheme, run, Call.run, hhas, replies]
  rfl

/-- A link that is not accepted has one reply, which says why, and no effect. -/
lemma execute_of_not_accepts (h : l.HasVerb .download) (hno : ¬ ∃ u m, Accepts k before l u m) :
    ∃ e : Reply, e.IsRefusal ∧ execute k s l = ([e], s) ∧ Refuses k before l e.text := by
  rw [execute_download h, download]
  by_cases hrest : l.rest = []
  · rw [if_pos hrest]
    exact ⟨.usage .download, rfl, rfl, .noLink hrest⟩
  rw [if_neg hrest]
  rcases hparsed : k.parse l.rest with reason | u
  · exact ⟨.badLink l.rest reason, trivial, rfl, .badLink hrest hparsed⟩
  rcases hscheme : Module.ofScheme? (k.scheme u) with _ | m
  · refine ⟨.badScheme (k.scheme u), trivial, ?_, .badScheme hrest hparsed hscheme⟩
    simp only [hscheme, run_replies]
  · have hunloaded : ¬ Loaded before m := fun hm => hno ⟨u, m, hrest, hparsed, hscheme, hm⟩
    have hhas : s.modules.has m = false := by
      rw [← Bool.not_eq_true, hs]
      exact hunloaded
    refine ⟨.moduleMissing m, trivial, ?_, .moduleMissing hrest hparsed hscheme hunloaded⟩
    simp only [hscheme, run, Call.run, hhas, replies]

end

/-- **What a new shell accepts** after some lines. The loaded modules are those that were last
mentioned to be loaded, in the order of their names. A line that asks for a link appends one
download, under the next number, if the link can be read and its module is loaded, and the reply
tells this number and the link; if not, it has one reply, which says why, and no effect. Only lines
that ask for a link, cancel, pause or resume change the queue. -/
theorem shell_accepts (k : Link.Reader α) (before : List Line) (l : Line) :
    let s := (executeAll k {} before).2
    (s.modules.toList.map Module.name).Pairwise (· < ·) ∧
      (∀ m, m ∈ s.modules.toList ↔ Loaded before m) ∧
      (l.HasVerb .download →
        ((∃ d, (execute k s l).2.queue.entries = s.queue.entries ++ [d]) ↔
          ∃ u m, Accepts k before l u m) ∧
        (∀ u m, Accepts k before l u m →
          execute k s l = ([.queued s.queue.nextId (k.text u)],
            { s with queue := {
                lastId := s.queue.nextId
                entries := s.queue.entries ++ [⟨s.queue.nextId, k.text u, m, false⟩] } }) ∧
          (execute k s l).1.map Reply.text =
            ["Download #".toList ++ Decimal.digits s.queue.nextId ++ " queued: ".toList ++
              k.text u]) ∧
        ((¬ ∃ u m, Accepts k before l u m) →
          ∃ e : Reply, e.IsRefusal ∧ execute k s l = ([e], s) ∧ Refuses k before l e.text)) ∧
      ((∀ v ∈ [.download, .cancel, .pause, .resume], ¬ l.HasVerb v) →
        (execute k s l).2.queue = s.queue) := by
  intro s
  have hloaded (m : Module) : s.modules.has m = true ↔ Loaded before m :=
    has_executeAll k before m
  have haccepted (h : l.HasVerb .download) {u : α} {m : Module} (hu : Accepts k before l u m) :
      execute k s l = ([.queued s.queue.nextId (k.text u)],
        { s with queue := (s.queue.push (k.text u) m).2 }) := execute_of_accepts hloaded h hu
  refine ⟨s.modules.toList_sorted, fun m => ?_, fun h => ⟨⟨?_, ?_⟩, ?_,
    execute_of_not_accepts hloaded h⟩, ?_⟩
  · rw [Modules.mem_toList, hloaded]
  · rintro ⟨d, hd⟩
    by_contra hno
    obtain ⟨e, -, he, -⟩ := execute_of_not_accepts hloaded h hno
    rw [he] at hd
    simpa using congrArg List.length hd
  · rintro ⟨u, m, hu⟩
    exact ⟨⟨s.queue.nextId, k.text u, m, false⟩, by rw [haccepted h hu]; rfl⟩
  · intro u m hu
    refine ⟨haccepted h hu, ?_⟩
    rw [haccepted h hu, List.map_singleton, Reply.text_queued]
  · exact queue_execute k s

/-- A module that is unloaded and loaded again in one line, and one that is mentioned last to be
unloaded. -/
theorem shell_accepts_mentions :
    let before : List Line := [
      ⟨"rmmod ftp http".toList, Line.unbroken_of_any rfl⟩,
      ⟨"modprobe ftp bogus http ftp".toList, Line.unbroken_of_any rfl⟩,
      ⟨"rmmod http".toList, Line.unbroken_of_any rfl⟩]
    let accepted : Line := ⟨"do  ftp://a/x".toList, Line.unbroken_of_any rfl⟩
    let refused : Line := ⟨"do http://a/x".toList, Line.unbroken_of_any rfl⟩
    let s := (executeAll Link.reader {} before).2
    s.modules.toList = [.ftp] ∧
      execute Link.reader s accepted = ([.queued 1 "ftp://a/x".toList],
        { s with queue := ⟨1, [⟨1, "ftp://a/x".toList, .ftp, false⟩]⟩ }) ∧
      (execute Link.reader s accepted).1.map Reply.text =
        ["Download #1 queued: ftp://a/x".toList] ∧
      (∃ e : Reply, e.IsRefusal ∧ execute Link.reader s refused = ([e], s) ∧
        Refuses Link.reader before refused e.text) := by
  intro before accepted refused s
  have hdo : accepted.HasVerb .download ∧ refused.HasVerb .download := by decide
  obtain ⟨-, -, haccepts, -⟩ := shell_accepts Link.reader before accepted
  obtain ⟨-, -, hrefuses, -⟩ := shell_accepts Link.reader before refused
  refine ⟨by decide, and_assoc.1 ⟨?_, ?_⟩⟩
  · obtain ⟨u, hu, htext, hscheme⟩ : ∃ u, Link.reader.parse accepted.rest = .ok u ∧
        Link.reader.text u = "ftp://a/x".toList ∧ Link.reader.scheme u = "ftp".toList :=
      ⟨_, rfl, rfl, rfl⟩
    have hscheme' : Module.ofScheme? (Link.reader.scheme u) = some .ftp := by
      rw [hscheme]
      decide
    have h := (haccepts hdo.1).2.1 u .ftp ⟨by decide, hu, hscheme', by decide⟩
    rw [htext] at h
    exact ⟨h.1, h.2.trans (by decide)⟩
  · refine (hrefuses hdo.2).2.2 ?_
    rintro ⟨u, m, -, hparsed, hscheme, hloaded⟩
    obtain ⟨v, hv, hv'⟩ : ∃ v, Link.reader.parse refused.rest = .ok v ∧
        Link.reader.scheme v = "http".toList := ⟨_, rfl, rfl⟩
    obtain rfl : v = u := Except.ok.inj (hv.symm.trans hparsed)
    rw [hv'] at hscheme
    obtain rfl : Module.http = m := Option.some.inj hscheme
    exact absurd hloaded (by decide)

end Shell

end LinkCourier
