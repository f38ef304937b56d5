import LinkCourier.Framing.Sequence
import LinkCourier.Link.Parse
import LinkCourier.Shell.Reply
import LinkCourier.Shell.Store

/-!
The shell of a daemon: what the lines of a command do, and what is replied to them.
-/

namespace LinkCourier.Shell

open Script

def loadModules (names : List Text) : Script Reply :=
  if names = [] then replies [.usage .load]
  else forEach (fun name => .call (.load name) fun
    | some true => replies [.moduleLoaded name]
    | some false => replies [.moduleAlreadyLoaded name]
    | none => replies [.moduleUnknown name]) names

def unloadModules (names : List Text) : Script Reply :=
  if names = [] then replies [.usage .unload]
  else forEach (fun name => .call (.unload name) fun
    | true => replies [.moduleUnloaded name]
    | false => replies [.moduleNotLoaded name]) names

def listModules : Script Reply :=
  .call .loaded fun
    | [] => replies [.noModules]
    | ms => replies (ms.map .moduleRow)

/-- Queues a link whose scheme has a module, if the module is loaded. -/
def download {α : Type} (k : Link.Reader α) (link : Text) : Script Reply :=
  if link = [] then replies [.usage .download]
  else match k.parse link with
    | .error reason => replies [.badLink link reason]
    | .ok l => match Module.ofScheme? (k.scheme l) with
      | none => replies [.badScheme (k.scheme l)]
      | some m => .call (.has m) fun
        | false => replies [.moduleMissing m]
        | true => .call (.push (k.text l) m) fun d => replies [.queued d.id d.link]

def listDownloads : Script Reply :=
  .call .list fun
    | [] => replies [.noDownloads]
    | ds => replies (ds.map .downloadRow)

/-- A number of 64 bits, behind any count of number signs. -/
def readId (arg : Text) : Option Nat := Decimal.readBelow UInt64.size (arg.dropWhile (· == '#'))

def badIds (v : Verb) (args : List Text) : List Reply :=
  (args.filter fun a => (readId a).isNone).map (.badId v)

/-- Does something for each number; the arguments that are none are reported first. -/
def forIds (v : Verb) (args : List Text) (f : Nat → Script Reply) : Script Reply :=
  if args = [] then replies [.usage v]
  else andThen (forEach f (args.filterMap readId)) (replies (badIds v args))

def cancelDownloads (args : List Text) : Script Reply :=
  forIds .cancel args fun id => .call (.cancel id) fun
    | some d => replies [.cancelled d.id]
    | none => replies [.downloadUnknown .cancel id]

def pauseDownloads (args : List Text) : Script Reply :=
  forIds .pause args fun id => .call (.setPaused id true) fun
    | some true => replies [.paused id]
    | some false => replies [.alreadyPaused id]
    | none => replies [.downloadUnknown .pause id]

def resumeDownloads (args : List Text) : Script Reply :=
  forIds .resume args fun id => .call (.setPaused id false) fun
    | some true => replies [.resumed id]
    | some false => replies [.notPaused id]
    | none => replies [.downloadUnknown .resume id]

def help : Script Reply := replies (.helpHead :: Verb.all.map .helpRow)

section

variable {α : Type} (k : Link.Reader α)

/-- What a line does. A line without a verb does nothing. -/
def script (l : Line) : Script Reply :=
  match l.verb? with
  | none => .done
  | some verb => match Verb.ofName? verb with
    | none => replies [.verbUnknown verb]
    | some .load => loadModules l.args
    | some .unload => unloadModules l.args
    | some .listLoaded => listModules
    | some .download => download k l.rest
    | some .listDownloads => listDownloads
    | some .cancel => cancelDownloads l.args
    | some .pause => pauseDownloads l.args
    | some .resume => resumeDownloads l.args
    | some .help => help

def execute (s : Store) (l : Line) : List Reply × Store := (script k l).run s

/-- Executes lines in order. -/
def executeAll (s : Store) : List Line → List Reply × Store
  | [] => ([], s)
  | l :: ls =>
    let (rs, s) := execute k s l
    let (rest, s) := executeAll s ls
    (rs ++ rest, s)

end

def encodeReply (r : Reply) : Bytes := Text.encode r.text ++ Framing.terminator

/-- The answer to a command: the replies to its lines, each closed by a terminator. -/
def respond {α : Type} (k : Link.Reader α) (s : Store) (c : Command) : Bytes × Store :=
  let (rs, s) := executeAll k s c.lines
  (rs.flatMap encodeReply, s)

end LinkCourier.Shell
