import Mathlib.Data.List.Basic
import LinkCourier.Shell.Execute

/-!
What the script of a line can do, whatever the answers to its calls: it makes the calls of its
verb only, and after each call that adds or removes a download it says so, and never otherwise.
-/

namespace LinkCourier

/-! ### Verbs and their calls -/

namespace Verb

lemma ofName?_name (v : Verb) : ofName? v.name.toList = some v := by
  cases v <;> decide

lemma name_of_ofName? {t : Text} {v : Verb} (h : ofName? t = some v) : v.name.toList = t := by
  simpa using List.find?_some h

end Verb

namespace Line

/-- The first word of the line is the name of the verb. -/
def HasVerb (l : Line) (v : Verb) : Prop := l.verb? = some v.name.toList

instance (l : Line) (v : Verb) : Decidable (l.HasVerb v) := inferInstanceAs (Decidable (_ = _))

end Line

/-- Tells of a download that has come or gone. -/
def Reply.isNews : Reply → Bool
  | .queued _ _ => true
  | .cancelled _ => true
  | _ => false

namespace Call

/-- The verb whose lines make the call. -/
def verb : Call → Verb
  | .load _ => .load
  | .unload _ => .unload
  | .loaded => .listLoaded
  | .has _ => .download
  | .push _ _ => .download
  | .list => .listDownloads
  | .cancel _ => .cancel
  | .setPaused _ true => .pause
  | .setPaused _ false => .resume

/-- What is to be told of an answer. -/
def news : (c : Call) → c.Result → List Reply
  | .push _ _, d => [.queued d.id d.link]
  | .cancel _, some d => [.cancelled d.id]
  | _, _ => []

end Call

/-! ### Scripts -/

namespace Script

/-- The replies before the next call. -/
def due {ρ : Type} : Script ρ → List ρ
  | .reply r next => r :: due next
  | _ => []

def news (x : Script Reply) : List Reply := x.due.filter (·.isNews)

/-- Every call is allowed, and the news that are told after it are those of its answer. -/
def Faithful (p : Call → Prop) : Script Reply → Prop
  | .done => True
  | .reply _ next => Faithful p next
  | .call c next => p c ∧ ∀ a, news (next a) = c.news a ∧ Faithful p (next a)

/-- A faithful script that tells no news before its first call. -/
structure Candid (p : Call → Prop) (x : Script Reply) : Prop where
  faithful : x.Faithful p
  quiet : x.news = []

variable {p p' : Call → Prop} {x k : Script Reply}

@[simp] lemma news_done : news .done = [] := rfl

@[simp] lemma news_call (c : Call) (next : c.Result → Script Reply) :
    news (.call c next) = [] := rfl

lemma news_reply (r : Reply) (next : Script Reply) :
    news (.reply r next) = (if r.isNews then [r] else []) ++ news next := by
  rw [news, due, List.filter_cons]
  split <;> rfl

lemma news_replies (rs : List Reply) : news (replies rs) = rs.filter (·.isNews) := by
  induction rs with
  | nil => rfl
  | cons r rs ih =>
    rw [replies, news_reply, ih, List.filter_cons]
    split <;> rfl

lemma faithful_replies (rs : List Reply) : (replies rs).Faithful p := by
  induction rs with
  | nil => trivial
  | cons r rs ih => exact ih

lemma Faithful.mono (hx : x.Faithful p) (h : ∀ c, p c → p' c) : x.Faithful p' := by
  induction x with
  | done => trivial
  | reply r next ih => exact ih hx
  | call c next ih => exact ⟨h c hx.1, fun a => ⟨(hx.2 a).1, ih a (hx.2 a).2⟩⟩

/-- What follows quietly changes no news. -/
lemma news_andThen (hk : k.news = []) : (andThen k x).news = x.news := by
  induction x with
  | done => exact hk
  | reply r next ih => rw [andThen, news_reply, ih, ← news_reply]
  | call c next => rfl

lemma Faithful.andThen (hx : x.Faithful p) (hk : k.Candid p) : (andThen k x).Faithful p := by
  induction x with
  | done => exact hk.faithful
  | reply r next ih => exact ih hx
  | call c next ih =>
    refine ⟨hx.1, fun a => ⟨?_, ih a (hx.2 a).2⟩⟩
    rw [news_andThen hk.quiet]
    exact (hx.2 a).1

lemma candid_done : (.done : Script Reply).Candid p := ⟨trivial, rfl⟩

lemma candid_replies {rs : List Reply} (h : rs.any (·.isNews) = false) :
    (replies rs).Candid p := by
  refine ⟨faithful_replies rs, ?_⟩
  rw [news_replies, List.filter_eq_nil_iff]
  simpa using h

lemma candid_reply {r : Reply} (h : r.isNews = false) : (replies [r]).Candid p :=
  candid_replies (by simpa using h)

lemma candid_call {c : Call} {next : c.Result → Script Reply} (hc : p c)
    (hnext : ∀ a, (next a).news = c.news a ∧ (next a).Faithful p) : (call c next).Candid p :=
  ⟨⟨hc, hnext⟩, rfl⟩

lemma Candid.andThen (hx : x.Candid p) (hk : k.Candid p) : (andThen k x).Candid p := by
  refine ⟨hx.faithful.andThen hk, ?_⟩
  rw [news_andThen hk.quiet, hx.quiet]

lemma candid_forEach {α : Type} {f : α → Script Reply} (hf : ∀ a, (f a).Candid p)
    (as : List α) : (forEach f as).Candid p := by
  induction as with
  | nil => exact candid_done
  | cons a as ih => exact (hf a).andThen ih

/-- What no allowed call changes, the whole script does not change. -/
lemma Faithful.frame {β : Type} (f : Store → β) (hf : ∀ c s, p c → f (c.run s).2 = f s)
    (hx : x.Faithful p) (s : Store) : f (run s x).2 = f s := by
  induction x generalizing s with
  | done => rfl
  | reply r next ih => exact ih hx s
  | call c next ih =>
    have hnext := ih (c.run s).1 (hx.2 (c.run s).1).2 (c.run s).2
    exact hnext.trans (hf c s hx.1)

/-! ### What all calls and replies have in common -/

/-- As long as the answers to its calls are such as `answers` has them, the calls of the script are
such as `calls` has them, and so are its replies. -/
def Meets (replies : Reply → Prop) (calls : Call → Prop) (answers : (c : Call) → c.Result → Prop) :
    Script Reply → Prop
  | .done => True
  | .reply r next => replies r ∧ Meets replies calls answers next
  | .call c next => calls c ∧ ∀ a, answers c a → Meets replies calls answers (next a)

variable {q : Reply → Prop} {answers : (c : Call) → c.Result → Prop} {y : Script Reply}

lemma meets_replies {rs : List Reply} (h : ∀ r ∈ rs, q r) : (replies rs).Meets q p answers := by
  induction rs with
  | nil => trivial
  | cons r rs ih =>
    obtain ⟨hr, hrs⟩ := List.forall_mem_cons.1 h
    exact ⟨hr, ih hrs⟩

lemma meets_reply {r : Reply} (h : q r) : (replies [r]).Meets q p answers := ⟨h, trivial⟩

lemma Meets.andThen (hx : x.Meets q p answers) (hy : y.Meets q p answers) :
    (andThen y x).Meets q p answers := by
  induction x with
  | done => exact hy
  | reply r next ih => exact ⟨hx.1, ih hx.2⟩
  | call c next ih => exact ⟨hx.1, fun a ha => ih a (hx.2 a ha)⟩

lemma meets_forEach {β : Type} {f : β → Script Reply} {bs : List β}
    (hf : ∀ b ∈ bs, (f b).Meets q p answers) : (forEach f bs).Meets q p answers := by
  induction bs with
  | nil => trivial
  | cons b bs ih =>
    obtain ⟨hb, hbs⟩ := List.forall_mem_cons.1 hf
    exact hb.andThen (ih hbs)

end Script

/-! ### Lines -/

namespace Shell

open Script

variable {α : Type} {p : Call → Prop}

lemma candid_loadModules (hp : ∀ c : Call, c.verb = .load → p c) (names : List Text) :
    (loadModules names).Candid p := by
  rw [loadModules]
  split
  · exact candid_reply rfl
  · refine candid_forEach (fun name => candid_call (hp _ rfl) fun a => ?_) names
    rcases a with _ | _ | _ <;> exact ⟨rfl, trivial⟩

lemma candid_unloadModules (hp : ∀ c : Call, c.verb = .unload → p c) (names : List Text) :
    (unloadModules names).Candid p := by
  rw [unloadModules]
  split
  · exact candid_reply rfl
  · refine candid_forEach (fun name => candid_call (hp _ rfl) fun a => ?_) names
    rcases a with _ | _ <;> exact ⟨rfl, trivial⟩

lemma candid_listModules (hp : ∀ c : Call, c.verb = .listLoaded → p c) :
    listModules.Candid p := by
  refine candid_call (hp _ rfl) fun ms => ?_
  rcases ms with _ | ⟨m, ms⟩
  · exact ⟨rfl, trivial⟩
  · have hrows : (replies ((m :: ms).map .moduleRow)).Candid p :=
      candid_replies (by simp [Reply.isNews])
    exact ⟨hrows.quiet, hrows.faithful⟩

lemma candid_download (hp : ∀ c : Call, c.verb = .download → p c) (k : Link.Reader α)
    (link : Text) : (download k link).Candid p := by
  rw [download]
  split
  · exact candid_reply rfl
  split
  · exact candid_reply rfl
  split
  · exact candid_reply rfl
  · refine candid_call (hp _ rfl) fun loaded => ?_
    cases loaded with
    | false => exact ⟨rfl, trivial⟩
    | true => exact ⟨rfl, hp _ rfl, fun d => ⟨rfl, trivial⟩⟩

lemma candid_listDownloads (hp : ∀ c : Call, c.verb = .listDownloads → p c) :
    listDownloads.Candid p := by
  refine candid_call (hp _ rfl) fun ds => ?_
  rcases ds with _ | ⟨d, ds⟩
  · exact ⟨rfl, trivial⟩
  · have hrows : (replies ((d :: ds).map .downloadRow)).Candid p :=
      candid_replies (by simp [Reply.isNews])
    exact ⟨hrows.quiet, hrows.faithful⟩

lemma candid_forIds {f : Nat → Script Reply} (v : Verb) (args : List Text)
    (hf : ∀ id, (f id).Candid p) : (forIds v args f).Candid p := by
  rw [forIds]
  split
  · exact candid_reply rfl
  · have hbad : (replies (badIds v args)).Candid p :=
      candid_replies (by simp [badIds, Reply.isNews])
    exact hbad.andThen (candid_forEach hf _)

lemma candid_cancelDownloads (hp : ∀ c : Call, c.verb = .cancel → p c) (args : List Text) :
    (cancelDownloads args).Candid p := by
  refine candid_forIds .cancel args fun id => candid_call (hp _ rfl) fun a => ?_
  rcases a with _ | d <;> exact ⟨rfl, trivial⟩

lemma candid_pauseDownloads (hp : ∀ c : Call, c.verb = .pause → p c) (args : List Text) :
    (pauseDownloads args).Candid p := by
  refine candid_forIds .pause args fun id => candid_call (hp _ rfl) fun a => ?_
  rcases a with _ | _ | _ <;> exact ⟨rfl, trivial⟩

lemma candid_resumeDownloads (hp : ∀ c : Call, c.verb = .resume → p c) (args : List Text) :
    (resumeDownloads args).Candid p := by
  refine candid_forIds .resume args fun id => candid_call (hp _ rfl) fun a => ?_
  rcases a with _ | _ | _ <;> exact ⟨rfl, trivial⟩

/-- **A line makes the calls of its verb only**, and tells the news of each. -/
theorem candid_script (k : Link.Reader α) (l : Line) :
    (script k l).Candid fun c => l.HasVerb c.verb := by
  rw [script]
  split
  · exact candid_done
  rename_i name hname
  rcases hv : Verb.ofName? name with _ | v
  · exact candid_reply rfl
  · have hl : l.HasVerb v := by rw [Line.HasVerb, hname, Verb.name_of_ofName? hv]
    have hp : ∀ c : Call, c.verb = v → l.HasVerb c.verb := fun c hc => hc ▸ hl
    cases v with
    | load => exact candid_loadModules hp l.args
    | unload => exact candid_unloadModules hp l.args
    | listLoaded => exact candid_listModules hp
    | download => exact candid_download hp k l.rest
    | listDownloads => exact candid_listDownloads hp
    | cancel => exact candid_cancelDownloads hp l.args
    | pause => exact candid_pauseDownloads hp l.args
    | resume => exact candid_resumeDownloads hp l.args
    | help => exact candid_replies (by decide)

end Shell

end LinkCourier
