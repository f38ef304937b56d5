import Mathlib.Data.List.Basic
import LinkCourier.Proofs.Link.Unbroken
import LinkCourier.Proofs.Shell.Sharing

/-!
Replies on one line. A reply repeats what a client has written on one line, and links as the
reader writes them; the links that are waiting have all been written by the reader, because
nothing else is ever pushed.
-/

namespace LinkCourier

open Text

variable {α : Type} {k : Link.Reader α}

namespace Reply

/-- The texts that a reply repeats: what a client has written, links, and what is said of them. -/
def quoted : Reply → List Text
  | .moduleLoaded name => [name]
  | .moduleAlreadyLoaded name => [name]
  | .moduleUnknown name => [name]
  | .moduleUnloaded name => [name]
  | .moduleNotLoaded name => [name]
  | .badLink link reason => [link, reason]
  | .badScheme scheme => [scheme]
  | .queued _ link => [link]
  | .downloadRow d => [d.link]
  | .badId _ arg => [arg]
  | .verbUnknown verb => [verb]
  | _ => []

/-- Everything that a reply repeats is on one line. -/
def Plain (r : Reply) : Prop := ∀ t ∈ r.quoted, Unbroken t

lemma plain_of_quoted_eq_nil {r : Reply} (h : r.quoted = []) : r.Plain := by
  intro t ht
  rw [h] at ht
  cases ht

lemma unbroken_numbered (id : ℕ) : Unbroken (numbered id) :=
  unbroken_cons.2 ⟨rfl, unbroken_toDigits 10 id⟩

lemma unbroken_module (m : Module) : Unbroken m.name.toList := by cases m <;> decide

lemma unbroken_verb (v : Verb) : Unbroken v.name.toList := by cases v <;> decide

lemma unbroken_between {s t u : Text} (hs : Unbroken s) (ht : Unbroken t) (hu : Unbroken u) :
    Unbroken (s ++ t ++ u) :=
  unbroken_append.2 ⟨unbroken_append.2 ⟨hs, ht⟩, hu⟩

lemma unbroken_ofDownload (id : ℕ) {said : Text} (h : Unbroken said) :
    Unbroken (ofDownload id said) := by
  have hopen : Unbroken "Download ".toList := by decide
  exact unbroken_append.2
    ⟨unbroken_append.2 ⟨hopen, unbroken_numbered id⟩, unbroken_cons.2 ⟨rfl, h⟩⟩

/-- A reply is on one line if what it repeats is. -/
lemma Plain.unbroken {r : Reply} (h : r.Plain) : Unbroken r.text := by
  cases r with
  | usage v => exact unbroken_append.2 ⟨by decide, by cases v <;> decide⟩
  | moduleLoaded name => exact unbroken_between (by decide) (h name (.head _)) (by decide)
  | moduleAlreadyLoaded name => exact unbroken_between (by decide) (h name (.head _)) (by decide)
  | moduleUnknown name => exact unbroken_between (by decide) (h name (.head _)) (by decide)
  | moduleUnloaded name => exact unbroken_between (by decide) (h name (.head _)) (by decide)
  | moduleNotLoaded name => exact unbroken_between (by decide) (h name (.head _)) (by decide)
  | noModules => exact (by decide : Unbroken "No modules loaded.".toList)
  | moduleRow m =>
    have hdescription : Unbroken m.description.toList := by cases m <;> decide
    exact unbroken_append.2 ⟨unbroken_padRight 8 (unbroken_module m),
      unbroken_cons.2 ⟨rfl, hdescription⟩⟩
  | badLink link reason =>
    have hlink := unbroken_between (s := "do: invalid link '".toList) (u := "': ".toList)
      (by decide) (h link (.head _)) (by decide)
    exact unbroken_append.2 ⟨hlink, h reason (.tail _ (.head _))⟩
  | badScheme scheme => exact unbroken_between (by decide) (h scheme (.head _)) (by decide)
  | moduleMissing m => cases m <;> exact (by decide)
  | queued id link =>
    have hlink := unbroken_append.2 ⟨(by decide : Unbroken "queued: ".toList), h link (.head _)⟩
    exact unbroken_ofDownload id hlink
  | noDownloads => exact (by decide : Unbroken "No downloads queued.".toList)
  | downloadRow d =>
    have hloader := unbroken_between (t := " [".toList) (unbroken_numbered d.id) (by decide)
      (unbroken_module d.loader)
    have hlink := unbroken_between (t := "] ".toList) hloader (by decide) (h d.link (.head _))
    exact unbroken_append.2 ⟨hlink, by split <;> decide⟩
  | badId v arg =>
    have hverb := unbroken_append.2 ⟨unbroken_verb v,
      (by decide : Unbroken ": invalid download id '".toList)⟩
    exact unbroken_between hverb (h arg (.head _)) (by decide)
  | downloadUnknown v id =>
    exact unbroken_between (unbroken_verb v) (by decide) (unbroken_numbered id)
  | cancelled id | paused id | alreadyPaused id | resumed id | notPaused id =>
    exact unbroken_ofDownload id (by decide)
  | helpHead => exact (by decide : Unbroken "Available commands:".toList)
  | helpRow v =>
    have hdescription : Unbroken v.description.toList := by cases v <;> decide
    exact unbroken_append.2 ⟨unbroken_padRight 13 (unbroken_verb v),
      unbroken_cons.2 ⟨rfl, hdescription⟩⟩
  | verbUnknown verb => exact unbroken_append.2 ⟨h verb (.head _), by decide⟩

end Reply

/-! ### Calls -/

/-- The text is a link as the reader writes it. -/
def Link.Reader.Writes (k : Link.Reader α) (t : Text) : Prop :=
  ∃ u l, k.parse u = .ok l ∧ k.text l = t

lemma Link.Reader.Writes.unbroken (hk : k.Unbroken) {t : Text} (h : k.Writes t) :
    Text.Unbroken t := by
  obtain ⟨u, l, hl, rfl⟩ := h
  exact hk.text u l hl

namespace Call

/-- A call that pushes at most a link as the reader writes it. -/
def Written (k : Link.Reader α) : Call → Prop
  | .push link _ => k.Writes link
  | _ => True

/-- The links that are told in an answer. -/
def links : (c : Call) → c.Result → List Text
  | .push _ _, d => [d.link]
  | .list, ds => ds.map (·.link)
  | _, _ => []

end Call

/-- The links that are waiting. -/
def Store.links (s : Store) : List Text := s.queue.entries.map (·.link)

lemma Queue.links_updateFirst (flag : Bool) (id : ℕ) (ds : List Download) :
    (Queue.updateFirst ({ · with paused := flag }) id ds).map (·.link) = ds.map (·.link) := by
  induction ds with
  | nil => rfl
  | cons d ds ih =>
    unfold Queue.updateFirst
    split
    · rfl
    · rw [List.map_cons, ih, List.map_cons]

/-- **One call** adds at most a link that the reader has written. -/
lemma Call.links_run {c : Call} (hc : c.Written k) (s : Store) {t : Text}
    (ht : t ∈ (c.run s).2.links) : t ∈ s.links ∨ k.Writes t := by
  cases c with
  | push link m =>
    simp only [Call.run, Queue.push, Store.links, List.map_append, List.mem_append, List.map_cons,
      List.map_nil, List.mem_singleton] at ht
    rcases ht with ht | rfl
    · exact .inl ht
    · exact .inr hc
  | cancel id =>
    have hsub : ((Call.cancel id).run s).2.links ⊆ s.links :=
      List.map_subset _ (List.eraseP_subset)
    exact .inl (hsub ht)
  | setPaused id flag =>
    refine .inl ?_
    unfold Store.links at ht ⊢
    rwa [show ((Call.setPaused id flag).run s).2.queue.entries =
      Queue.updateFirst ({ · with paused := flag }) id s.queue.entries from rfl,
      Queue.links_updateFirst] at ht
  | _ => exact .inl ht

/-- A store that a new one becomes by calls, whoever makes them, that push nothing but links as
the reader writes them. -/
inductive Store.Reachable (k : Link.Reader α) : Store → Prop
  | new : Reachable k {}
  | call {s : Store} {c : Call} (hs : Reachable k s) (hc : c.Written k) : Reachable k (c.run s).2

lemma Store.Reachable.unbroken_links (hk : k.Unbroken) {s : Store} (hs : s.Reachable k) :
    ∀ t ∈ s.links, Unbroken t := by
  induction hs with
  | new => nofun
  | call hs hc ih =>
    intro t ht
    rcases Call.links_run hc _ ht with ht | hwrites
    · exact ih t ht
    · exact hwrites.unbroken hk

/-- What is told of a reachable store is on one line. -/
lemma Call.unbroken_links (hk : k.Unbroken) {s : Store} (hs : s.Reachable k) {c : Call}
    (hc : c.Written k) : ∀ t ∈ c.links (c.run s).1, Unbroken t := by
  cases c with
  | push link m => exact List.forall_mem_singleton.2 (Link.Reader.Writes.unbroken hk hc)
  | list => exact hs.unbroken_links hk
  | _ => nofun

/-! ### Scripts -/

namespace Script

/-- As long as the answers to its calls are on one line, so are the replies, and nothing is pushed
but what the reader has written. -/
def Plain (k : Link.Reader α) (x : Script Reply) : Prop :=
  x.Meets Reply.Plain (Call.Written k) fun c a => ∀ t ∈ c.links a, Unbroken t

variable {x : Script Reply}

lemma plain_reply_own {r : Reply} (h : r.quoted = []) : (replies [r]).Plain k :=
  meets_reply (Reply.plain_of_quoted_eq_nil h)

/-- A plain script leaves a reachable store, and all of its replies are plain. -/
lemma Plain.run (hk : k.Unbroken) (hx : x.Plain k) {s : Store} (hs : s.Reachable k) :
    (x.run s).2.Reachable k ∧ ∀ r ∈ (x.run s).1, r.Plain := by
  induction x generalizing s with
  | done => exact ⟨hs, nofun⟩
  | reply r next ih =>
    obtain ⟨hreachable, hreplies⟩ := ih hx.2 hs
    exact ⟨hreachable, List.forall_mem_cons.2 ⟨hx.1, hreplies⟩⟩
  | call c next ih =>
    exact ih _ (hx.2 _ (Call.unbroken_links hk hs hx.1)) (hs.call hx.1)

end Script

/-! ### Lines -/

namespace Shell

open Script

lemma plain_loadModules {names : List Text} (h : ∀ t ∈ names, Unbroken t) :
    (loadModules names).Plain k := by
  rw [loadModules]
  split
  · exact plain_reply_own rfl
  · refine meets_forEach fun name hname => ⟨trivial, fun a _ => ?_⟩
    have hquoted : ∀ t ∈ [name], Unbroken t := List.forall_mem_singleton.2 (h name hname)
    rcases a with _ | _ | _ <;> exact meets_reply hquoted

lemma plain_unloadModules {names : List Text} (h : ∀ t ∈ names, Unbroken t) :
    (unloadModules names).Plain k := by
  rw [unloadModules]
  split
  · exact plain_reply_own rfl
  · refine meets_forEach fun name hname => ⟨trivial, fun a _ => ?_⟩
    have hquoted : ∀ t ∈ [name], Unbroken t := List.forall_mem_singleton.2 (h name hname)
    rcases a with _ | _ <;> exact meets_reply hquoted

lemma plain_listModules : listModules.Plain k := by
  refine ⟨trivial, fun ms _ => ?_⟩
  rcases ms with _ | ⟨m, ms⟩
  · exact plain_reply_own rfl
  · refine meets_replies fun r hr => ?_
    obtain ⟨m, -, rfl⟩ := List.mem_map.1 hr
    exact Reply.plain_of_quoted_eq_nil rfl

lemma plain_download (hk : k.Unbroken) {link : Text} (h : Unbroken link) :
    (download k link).Plain k := by
  rw [download]
  split
  · exact plain_reply_own rfl
  split
  · rename_i reason hparse
    exact meets_reply (List.forall_mem_cons.2
      ⟨h, List.forall_mem_singleton.2 (hk.reason link reason hparse)⟩)
  rename_i l hparse
  split
  · exact meets_reply (List.forall_mem_singleton.2 (hk.scheme link l hparse))
  · refine ⟨trivial, fun loaded _ => ?_⟩
    cases loaded with
    | false => exact plain_reply_own rfl
    | true => exact ⟨⟨link, l, hparse, rfl⟩, fun d hd => meets_reply hd⟩

lemma plain_listDownloads : listDownloads.Plain k := by
  refine ⟨trivial, fun ds hds => ?_⟩
  rcases ds with _ | ⟨d, ds⟩
  · exact plain_reply_own rfl
  · refine meets_replies fun r hr => ?_
    obtain ⟨e, he, rfl⟩ := List.mem_map.1 hr
    exact List.forall_mem_singleton.2 (hds e.link (List.mem_map_of_mem he))

lemma plain_forIds (v : Verb) {args : List Text} (h : ∀ t ∈ args, Unbroken t)
    {f : ℕ → Script Reply} (hf : ∀ id, (f id).Plain k) : (forIds v args f).Plain k := by
  rw [forIds]
  split
  · exact plain_reply_own rfl
  · have hbad : (replies (badIds v args)).Plain k := by
      refine meets_replies fun r hr => ?_
      obtain ⟨arg, harg, rfl⟩ := List.mem_map.1 hr
      exact List.forall_mem_singleton.2 (h arg (List.mem_filter.1 harg).1)
    exact hbad.andThen (meets_forEach fun id _ => hf id)

/-- **A line** is answered on one line each time, whatever it says. -/
lemma plain_script (hk : k.Unbroken) (l : Line) : (script k l).Plain k := by
  have hwords : ∀ t ∈ l.words, Unbroken t := unbroken_words l.unbroken
  have hargs : ∀ t ∈ l.args, Unbroken t := fun t ht => hwords t (List.mem_of_mem_drop ht)
  have hrest : Unbroken l.rest := unbroken_trim ((Unbroken.dropWhile l.unbroken _).dropWhile _)
  rw [script]
  split
  · trivial
  rename_i verb hverb
  split
  · exact meets_reply (List.forall_mem_singleton.2 (hwords verb (List.mem_of_head? hverb)))
  · exact plain_loadModules hargs
  · exact plain_unloadModules hargs
  · exact plain_listModules
  · exact plain_download hk hrest
  · exact plain_listDownloads
  · refine plain_forIds .cancel hargs fun id => ⟨trivial, fun a _ => ?_⟩
    rcases a with _ | d <;> exact plain_reply_own rfl
  · refine plain_forIds .pause hargs fun id => ⟨trivial, fun a _ => ?_⟩
    rcases a with _ | _ | _ <;> exact plain_reply_own rfl
  · refine plain_forIds .resume hargs fun id => ⟨trivial, fun a _ => ?_⟩
    rcases a with _ | _ | _ <;> exact plain_reply_own rfl
  · have hhead : Reply.helpHead.Plain := Reply.plain_of_quoted_eq_nil rfl
    refine meets_replies (List.forall_mem_cons.2 ⟨hhead, fun r hr => ?_⟩)
    obtain ⟨v, -, rfl⟩ := List.mem_map.1 hr
    exact Reply.plain_of_quoted_eq_nil rfl

/-- Lines that are executed one after the other. -/
lemma plain_executeAll (hk : k.Unbroken) {s : Store} (hs : s.Reachable k) (ls : List Line) :
    (executeAll k s ls).2.Reachable k ∧ ∀ r ∈ (executeAll k s ls).1, r.Plain := by
  induction ls generalizing s with
  | nil => exact ⟨hs, nofun⟩
  | cons l ls ih =>
    obtain ⟨hline, hreplies⟩ := (plain_script hk l).run hk hs
    obtain ⟨hrest, hmore⟩ := ih hline
    exact ⟨hrest, List.forall_mem_append.2 ⟨hreplies, hmore⟩⟩

/-! ### Sessions -/

namespace Shared

/-- The store is reachable, and what is left of the lines in progress is plain. -/
structure Plain (k : Link.Reader α) (s : Shared) : Prop where
  reachable : s.store.Reachable k
  scripts : ∀ x ∈ s.sessions, x.script.Plain k

lemma plain_start (lines : List (List Line)) : (start lines).Plain k := by
  refine ⟨.new, fun x hx => ?_⟩
  obtain ⟨ls, -, rfl⟩ := List.mem_map.1 hx
  trivial

/-- A step of a session leaves a reachable store, and what is left of its line is plain. -/
lemma Plain.next (hk : k.Unbroken) {s : Shared} (h : s.Plain k) {x : Session}
    (hx : x ∈ s.sessions) :
    (x.next k s.store).2.2.Reachable k ∧ (x.next k s.store).1.script.Plain k := by
  have hscript := h.scripts x hx
  obtain ⟨y, lines, said⟩ := x
  cases y with
  | done =>
    cases lines with
    | nil => exact ⟨h.reachable, trivial⟩
    | cons l ls => exact ⟨h.reachable, plain_script hk l⟩
  | reply r next => exact ⟨h.reachable, hscript.2⟩
  | call c next =>
    have hlinks := Call.unbroken_links hk h.reachable hscript.1
    exact ⟨h.reachable.call hscript.1, hscript.2 _ hlinks⟩

/-- **One step** of any session. -/
lemma Plain.step (hk : k.Unbroken) {s : Shared} (h : s.Plain k) (i : ℕ) :
    (s.step k i).Plain k where
  reachable := by
    rcases hx : s.sessions[i]? with _ | x
    · rw [step_of_none hx]
      exact h.reachable
    · obtain ⟨u, v, hs, hstep⟩ := step_of_some (k := k) hx
      rw [hstep]
      exact (h.next hk (by simp [hs])).1
  scripts := forall_step h.scripts (fun _ hx => (h.next hk hx).2) i

/-- **Sessions** reach nothing else, however their calls are interleaved. -/
lemma reachable_run (hk : k.Unbroken) (lines : List (List Line)) (schedule : List ℕ) :
    ((start lines).run k schedule).store.Reachable k := by
  have hrun : ((start lines).run k schedule).Plain k :=
    List.foldlRecOn schedule _ (plain_start lines) fun _ hs i _ => hs.step hk i
  exact hrun.reachable

end Shared

end Shell

end LinkCourier
