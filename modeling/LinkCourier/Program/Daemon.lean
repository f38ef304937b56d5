import LinkCourier.Program.Client
import LinkCourier.Relay.Server

/-!
The program that serves links with the shell.
-/

namespace LinkCourier.Program.Daemon

def name : String := "linkrelay-daemon"

def listenOption : Arguments.Opt := ⟨"listen", some 'l', isEndpoint⟩

def counts : List (Arguments.Opt × Settings.Field) :=
  [countOption .maxConnections "max-connections" (some 'm'),
    countOption .readTimeoutMs "read-timeout-ms" none]

def usage : String :=
  "Usage: linkrelay-daemon [-c FILE] [-l HOST:PORT] [-m COUNT] [--read-timeout-ms MS]\n"

def read (args : List Text) : Arguments.Reading Arguments.Given :=
  (Arguments.front (configOption :: listenOption :: counts.map (·.1)) [] args).andThen fun f =>
    if f.rest = [] then .done f.given else .refused

inductive Plan where
  | finish (o : Output)
  | serve (s : Settings)

def bindFailure (f : Failure) : Output := .failed s!"Failed to bind: {f.message}"

/-- Binds to the settings of file and options; `free` says whether a place is free. -/
def plan (files : Files) (free : Endpoint → Bool) (args : List Text) : Plan :=
  match read args with
  | .refused => .finish (.refused usage)
  | .help => .finish (.shown usage)
  | .version => .finish (.shown s!"{name} {version}\n")
  | .done given => match settingsOf files "listen" counts given with
    | .error f => .finish (.failed s!"Invalid configuration: {(Failure.settings f).message}")
    | .ok s => match Server.bind s (free s.endpoint) with
      | .error f => .finish (bindFailure f)
      | .ok s => .serve s

/-- How the program ends after it has served. -/
def finish (s : Settings) : Output :=
  match Server.stop s {} with
  | .ok _ => { exit := 0 }
  | .error f => .failed s!"Server error: {f.message}"

end LinkCourier.Program.Daemon
