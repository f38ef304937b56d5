import LinkCourier.Program.Arguments
import LinkCourier.Relay.Client
import LinkCourier.Settings.Document

/-!
The program that sends a link or raw lines to a daemon.
-/

namespace LinkCourier.Program

def version : String := "0.1.0"

/-- What a program leaves when it ends. -/
structure Output where
  exit : Nat
  stdout : Bytes := []
  stderr : Text := []
  deriving DecidableEq, Repr

namespace Output

def shown (text : String) : Output := { exit := 0, stdout := Text.encode text.toList }

def refused (usage : String) : Output :=
  { exit := 2, stderr := (s!"error: bad arguments\n\n{usage}").toList }

def failed (message : String) : Output := { exit := 1, stderr := message.toList ++ ['\n'] }

end Output

/-- The contents of a file by its path. -/
abbrev Files := Text → Except IoError Bytes

def isPath (t : Text) : Bool := !t.isEmpty
def isEndpoint (t : Text) : Bool := (Endpoint.ofText t).toOption.isSome
def isCount (t : Text) : Bool := (Decimal.readBelow UInt64.size t).isSome

def configOption : Arguments.Opt := ⟨"config", some 'c', isPath⟩

/-- An option that makes a setting. -/
def countOption (f : Settings.Field) (name : String) (letter : Option Char) :
    Arguments.Opt × Settings.Field :=
  (⟨name, letter, isCount⟩, f)

/-- The file that arguments name, if they make sense. -/
def fileOf : Arguments.Reading Arguments.Given → Option Text
  | .done given => given.lookup configOption.name
  | _ => none

/-- The settings of the file, if one is given, with the given options on top. The file has to
be usable by itself, and so has the result. -/
def settingsOf (files : Files) (endpoint : String) (counts : List (Arguments.Opt × Settings.Field))
    (given : Arguments.Given) : Except Settings.Fault Settings := do
  let s ← match given.lookup configOption.name with
    | none => pure {}
    | some path => Settings.ofFile path (files path)
  let s := match (given.lookup endpoint).bind fun t => (Endpoint.ofText t).toOption with
    | none => s
    | some e => { s with endpoint := e }
  let s := counts.foldl (fun s (o, f) =>
    match (given.lookup o.name).bind (Decimal.readBelow UInt64.size) with
    | none => s
    | some n => s.set f n.toUInt64) s
  s.check

namespace Client

def name : String := "linkrelay-cli"

def serverOption : Arguments.Opt := ⟨"server", some 's', isEndpoint⟩

def counts : List (Arguments.Opt × Settings.Field) :=
  [countOption .timeoutMs "timeout-ms" (some 't')]

def usage : String :=
  "Usage: linkrelay-cli [-c FILE] [-s HOST:PORT] [-t MS] submit LINK | raw LINE...\n"

inductive Request where
  | submit (link : Text)
  | raw (lines : List Text)
  deriving DecidableEq, Repr

/-- Pages of help are named by what they help with. -/
def helpPages : List Text := ["submit".toList, "raw".toList, "help".toList]

def submitOf : List Text → Arguments.Reading Request
  | [link] => .done (.submit link)
  | _ => .refused

def rawOf : List Text → Arguments.Reading Request
  | [] => .refused
  | lines => .done (.raw lines)

def request (rest : List Text) : Arguments.Reading Request :=
  match rest with
  | [] => .refused
  | t :: r =>
    if t = "submit".toList then (Arguments.words (some 1) r).andThen submitOf
    else if t = "raw".toList then (Arguments.words none r).andThen rawOf
    else if t = "help".toList then match r with
      | [] => .help
      | [page] => if helpPages.contains page then .help else .refused
      | _ => .refused
    else .refused

def read (args : List Text) : Arguments.Reading (Arguments.Given × Request) :=
  (Arguments.front (configOption :: serverOption :: counts.map (·.1)) [] args).andThen fun f =>
    if f.escaped then .refused else (request f.rest).map (f.given, ·)

/-- What is left to do after the arguments have been read: nothing but an output, or an
exchange. -/
inductive Plan where
  | finish (o : Output)
  | exchange (c : LinkCourier.Client) (command : Command)

def failure (f : Failure) : Output := .failed s!"error ({f.kind.name}): {f.message}"

def commandOf : Request → Except Command.Fault Command
  | .submit link => Command.download link
  | .raw lines => Command.ofTexts lines

def plan (files : Files) (args : List Text) : Plan :=
  match read args with
  | .refused => .finish (.refused usage)
  | .help => .finish (.shown usage)
  | .version => .finish (.shown s!"{name} {version}\n")
  | .done (given, r) => match settingsOf files "server" counts given with
    | .error f => .finish (.failed s!"error: {(Failure.settings f).message}")
    | .ok s => match commandOf r with
      | .error f => .finish (failure (.invalidCommand f))
      | .ok c => .exchange (.ofSettings s) c

/-- A response is shown as text that ends its last line. -/
def responseText (w : Bytes) : Text :=
  let t := Utf8.decodeLossy w
  if t = [] ∨ t.getLast? = some '\n' then t else t ++ ['\n']

def finish : Except Failure Bytes → Output
  | .ok w => { exit := 0, stdout := Text.encode (responseText w) }
  | .error f => failure f

end Client

end LinkCourier.Program
