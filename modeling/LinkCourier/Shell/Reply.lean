import LinkCourier.Text.Decimal
import LinkCourier.Shell.Queue

/-!
The verbs of the shell, and what it has to say. Every reply is one line.
-/

namespace LinkCourier

inductive Verb where
  | load | unload | listLoaded | download | listDownloads | cancel | pause | resume | help
  deriving DecidableEq, Repr

namespace Verb

def name : Verb → String
  | .load => "modprobe"
  | .unload => "rmmod"
  | .listLoaded => "lsmod"
  | .download => "do"
  | .listDownloads => "vd"
  | .cancel => "cancel"
  | .pause => "pause"
  | .resume => "resume"
  | .help => "help"

def description : Verb → String
  | .load => "Load a module."
  | .unload => "Unload a module."
  | .listLoaded => "List loaded modules."
  | .download => "Download a link."
  | .listDownloads => "View downloads."
  | .cancel => "Cancel a download."
  | .pause => "Pause a download."
  | .resume => "Resume a download."
  | .help => "Show this help."

/-- What a line with this verb must look like. -/
def usage : Verb → String
  | .load => "modprobe <module> [<module>...]"
  | .unload => "rmmod <module> [<module>...]"
  | .download => "do <link>"
  | .cancel => "cancel <id> [<id>...]"
  | .pause => "pause <id> [<id>...]"
  | .resume => "resume <id> [<id>...]"
  | v => v.name

/-- In the order of the help. -/
def all : List Verb :=
  [.load, .unload, .listLoaded, .download, .listDownloads, .cancel, .pause, .resume, .help]

def ofName? (t : Text) : Option Verb := all.find? (·.name.toList = t)

end Verb

inductive Reply where
  | usage (v : Verb)
  | moduleLoaded (name : Text)
  | moduleAlreadyLoaded (name : Text)
  | moduleUnknown (name : Text)
  | moduleUnloaded (name : Text)
  | moduleNotLoaded (name : Text)
  | noModules
  | moduleRow (m : Module)
  | badLink (link : Text) (reason : Text)
  | badScheme (scheme : Text)
  | moduleMissing (m : Module)
  | queued (id : Nat) (link : Text)
  | noDownloads
  | downloadRow (d : Download)
  | badId (v : Verb) (arg : Text)
  | downloadUnknown (v : Verb) (id : Nat)
  | cancelled (id : Nat)
  | paused (id : Nat)
  | alreadyPaused (id : Nat)
  | resumed (id : Nat)
  | notPaused (id : Nat)
  | helpHead
  | helpRow (v : Verb)
  | verbUnknown (verb : Text)
  deriving DecidableEq, Repr

namespace Reply

def numbered (id : Nat) : Text := '#' :: Decimal.digits id

/-- What is said of a download. -/
def ofDownload (id : Nat) (said : Text) : Text :=
  "Download ".toList ++ numbered id ++ ' ' :: said

def downloadText (d : Download) : Text :=
  numbered d.id ++ " [".toList ++ d.loader.name.toList ++ "] ".toList ++ d.link ++
    (if d.paused then " (paused)".toList else [])

def text : Reply → Text
  | .usage v => "Syntax: ".toList ++ v.usage.toList
  | .moduleLoaded name => "Module '".toList ++ name ++ "' loaded.".toList
  | .moduleAlreadyLoaded name => "Module '".toList ++ name ++ "' already loaded.".toList
  | .moduleUnknown name => "modprobe: unknown module '".toList ++ name ++ ['\'']
  | .moduleUnloaded name => "Module '".toList ++ name ++ "' unloaded.".toList
  | .moduleNotLoaded name => "rmmod: module '".toList ++ name ++ "' is not loaded".toList
  | .noModules => "No modules loaded.".toList
  | .moduleRow m => Text.padRight 8 m.name.toList ++ ' ' :: m.description.toList
  | .badLink link reason => "do: invalid link '".toList ++ link ++ "': ".toList ++ reason
  | .badScheme scheme => "do: unsupported scheme '".toList ++ scheme ++ ['\'']
  | .moduleMissing m =>
    let name := m.name.toList
    "do: module '".toList ++ name ++ "' is not loaded (try 'modprobe ".toList ++ name ++ "')".toList
  | .queued id link => ofDownload id ("queued: ".toList ++ link)
  | .noDownloads => "No downloads queued.".toList
  | .downloadRow d => downloadText d
  | .badId v arg => v.name.toList ++ ": invalid download id '".toList ++ arg ++ ['\'']
  | .downloadUnknown v id => v.name.toList ++ ": no such download ".toList ++ numbered id
  | .cancelled id => ofDownload id "cancelled.".toList
  | .paused id => ofDownload id "paused.".toList
  | .alreadyPaused id => ofDownload id "already paused.".toList
  | .resumed id => ofDownload id "resumed.".toList
  | .notPaused id => ofDownload id "is not paused.".toList
  | .helpHead => "Available commands:".toList
  | .helpRow v => Text.padRight 13 v.name.toList ++ ' ' :: v.description.toList
  | .verbUnknown verb => verb ++ ": command not found.".toList

/-! ### What a text tells -/

/-- The download that a reply is about, and what is said of it. -/
def about? : Reply → Option (Nat × Text)
  | .queued id link => some (id, "queued: ".toList ++ link)
  | .cancelled id => some (id, "cancelled.".toList)
  | .paused id => some (id, "paused.".toList)
  | .alreadyPaused id => some (id, "already paused.".toList)
  | .resumed id => some (id, "resumed.".toList)
  | .notPaused id => some (id, "is not paused.".toList)
  | _ => none

/-- A verb that is repeated is one word. -/
def Worded : Reply → Prop
  | .verbUnknown verb => ' ' ∉ verb
  | _ => True

variable {r r' : Reply} {id m n : Nat} {t u : Text}

theorem ofDownload_eq (id : Nat) (said : Text) :
    ofDownload id said = "Download #".toList ++ Decimal.digits id ++ ' ' :: said := by
  have hopen (x : Text) : "Download ".toList ++ '#' :: x = "Download #".toList ++ x := by
    have h : "Download #".toList = "Download ".toList ++ ['#'] := by decide
    rw [h, List.append_assoc, List.singleton_append]
  exact congrArg (· ++ ' ' :: said) (hopen (Decimal.digits id))

/-- The blank before what is said belongs to neither. -/
theorem ofDownload_of_eq {id : Nat} {said t : Text} (h : t = ' ' :: said) :
    ofDownload id said = "Download #".toList ++ Decimal.digits id ++ t := by
  rw [h, ofDownload_eq]

theorem text_queued (id : Nat) (link : Text) : (queued id link).text =
    "Download #".toList ++ Decimal.digits id ++ " queued: ".toList ++ link := by
  have hblank : " queued: ".toList = ' ' :: "queued: ".toList := by decide
  rw [List.append_assoc _ _ link]
  exact ofDownload_of_eq (congrArg (· ++ link) hblank)

theorem text_cancelled (id : Nat) : (cancelled id).text =
    "Download #".toList ++ Decimal.digits id ++ " cancelled.".toList :=
  ofDownload_of_eq (by decide)

theorem text_paused (id : Nat) : (paused id).text =
    "Download #".toList ++ Decimal.digits id ++ " paused.".toList :=
  ofDownload_of_eq (by decide)

theorem text_alreadyPaused (id : Nat) : (alreadyPaused id).text =
    "Download #".toList ++ Decimal.digits id ++ " already paused.".toList :=
  ofDownload_of_eq (by decide)

theorem text_resumed (id : Nat) : (resumed id).text =
    "Download #".toList ++ Decimal.digits id ++ " resumed.".toList :=
  ofDownload_of_eq (by decide)

theorem text_notPaused (id : Nat) : (notPaused id).text =
    "Download #".toList ++ Decimal.digits id ++ " is not paused.".toList :=
  ofDownload_of_eq (by decide)

theorem text_downloadUnknown (v : Verb) (id : Nat) : (downloadUnknown v id).text =
    v.name.toList ++ ": no such download #".toList ++ Decimal.digits id := by
  have hsign : ": no such download #".toList = ": no such download ".toList ++ ['#'] := by decide
  have htext : (downloadUnknown v id).text =
      v.name.toList ++ ": no such download ".toList ++ (['#'] ++ Decimal.digits id) := rfl
  rw [htext, hsign, ← List.append_assoc, ← List.append_assoc]

theorem ofDownload_inj : ofDownload m t = ofDownload n u ↔ m = n ∧ t = u := by
  rw [ofDownload_eq, ofDownload_eq, List.append_assoc, List.append_assoc,
    List.append_cancel_left_eq]
  constructor
  · intro h
    exact Decimal.digits_append_inj (by decide) h
  · rintro ⟨rfl, rfl⟩
    rfl

theorem text_of_about? (h : r.about? = some (id, t)) : r.text = ofDownload id t := by
  cases r with
  | queued | cancelled | paused | alreadyPaused | resumed | notPaused =>
    obtain ⟨rfl, rfl⟩ := Prod.mk.inj (Option.some.inj h)
    rfl
  | _ => exact absurd h.symm (Option.some_ne_none _)

/-- No two replies say the same of a download. -/
theorem about?_inj (h : r.about? = r'.about?) (hr : r'.about? ≠ none) : r = r' := by
  cases r <;> cases r' <;> simp_all [about?]

/-- The text begins with a letter, but not with that of a reply about a download. -/
def Differs (t : Text) : Bool := t.head?.any (· ≠ 'D')

theorem differs_append (h : Differs t) (u : Text) : Differs (t ++ u) := by
  cases t with
  | nil => cases h
  | cons c t => exact h

theorem differs_verb (v : Verb) : Differs v.name.toList := by cases v <;> decide

/-- The first word of a text is what stands before its first blank. -/
theorem first_word_eq {v w : Text} (hv : ' ' ∉ v) (hw : ' ' ∉ w)
    (h : v ++ ' ' :: t = w ++ ' ' :: u) : v = w := by
  have hcut {w : Text} (hw : ' ' ∉ w) (t : Text) : (w ++ ' ' :: t).takeWhile (· != ' ') = w := by
    have hall : ∀ c ∈ w, (c != ' ') = true := fun c hc =>
      bne_iff_ne.2 fun heq => hw (heq ▸ hc)
    rw [List.takeWhile_append_of_pos hall, List.takeWhile_cons_of_neg (by decide), List.append_nil]
  rw [← hcut hv t, h, hcut hw]

/-- The first word ends with a colon, and with a letter in a reply about a download. -/
theorem text_verbUnknown_ne (h : ' ' ∉ t) : (verbUnknown t).text ≠ ofDownload id u := by
  have hleft : (verbUnknown t).text = (t ++ [':']) ++ ' ' :: "command not found.".toList := by
    have hcolon : ": command not found.".toList = [':'] ++ ' ' :: "command not found.".toList := by
      decide
    exact (congrArg (t ++ ·) hcolon).trans (List.append_assoc ..).symm
  have hright : ofDownload id u = "Download".toList ++ ' ' :: (numbered id ++ ' ' :: u) := by
    have hblank : "Download ".toList = "Download".toList ++ [' '] := by decide
    have happ (x : Text) : "Download ".toList ++ x = "Download".toList ++ ' ' :: x := by
      rw [hblank, List.append_assoc, List.singleton_append]
    exact (List.append_assoc ..).trans (happ _)
  intro heq
  have hword : t ++ [':'] = "Download".toList := by
    refine first_word_eq (by simp [h]) (by decide) (hleft.symm.trans (heq.trans hright))
  have hends := congrArg List.getLast? hword
  rw [List.getLast?_concat] at hends
  exact absurd hends (by decide)

/-- **A text about a download** is that of a reply about it. -/
theorem about?_of_text (hr : r.Worded) (h : r.text = ofDownload id t) :
    r.about? = some (id, t) := by
  have hdiffers (hdiffers : Differs r.text) : r.about? = some (id, t) := by
    rw [h] at hdiffers
    cases hdiffers
  cases r with
  | queued | cancelled | paused | alreadyPaused | resumed | notPaused =>
    obtain ⟨rfl, rfl⟩ := ofDownload_inj.1 h
    rfl
  | verbUnknown verb => exact absurd h (text_verbUnknown_ne hr)
  | noModules | noDownloads | helpHead => exact hdiffers (by decide)
  | moduleMissing m | moduleRow m => exact hdiffers (by cases m <;> decide)
  | helpRow v => exact hdiffers (by cases v <;> decide)
  | downloadRow d => exact hdiffers (rfl : Differs (downloadText d) = true)
  | badId v =>
    exact hdiffers (differs_append (differs_append (differs_append (differs_verb v) _) _) _)
  | downloadUnknown v => exact hdiffers (differs_append (differs_append (differs_verb v) _) _)
  | usage => exact hdiffers (differs_append (by decide) _)
  | badLink =>
    exact hdiffers (differs_append (differs_append (differs_append (by decide) _) _) _)
  | _ => exact hdiffers (differs_append (differs_append (by decide) _) _)

/-- **The text of a reply about a download tells the reply.** -/
theorem text_eq_iff (hr : r.Worded) (h : r'.about? ≠ none) : r.text = r'.text ↔ r = r' := by
  obtain ⟨⟨id, t⟩, h'⟩ := Option.ne_none_iff_exists'.1 h
  constructor
  · intro htext
    rw [text_of_about? h'] at htext
    exact about?_inj ((about?_of_text hr htext).trans h'.symm) h
  · rintro rfl
    rfl

end Reply

end LinkCourier
