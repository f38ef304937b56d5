import LinkCourier.Program.Daemon
import LinkCourier.Relay.Gate
import Std.Async.DNS
import Std.Async.Signal
import Std.Async.TCP
import Std.Async.Timer
import Std.Sync.Channel
import Std.Sync.Mutex

/-!
The two programs on the network. The name under which the program is started says which of
them it is.
-/

namespace LinkCourier.Main

open Std.Async Std.Net

abbrev Socket := TCP.Socket.Client

/-- The system's number of a failure, which may come with a minus sign. -/
def number : IO.Error → Nat
  | .noFileOrDirectory _ n _ | .noSuchThing _ n _ | .resourceBusy n _ | .resourceVanished n _ =>
    n.toInt32.toInt.natAbs
  | _ => 0

/-- What has gone wrong, in the words of the system where they are known. -/
def ioError (e : IO.Error) : IoError :=
  match OsError.ofNumber? (number e) with
  | some cause => .system cause
  | none => .worded .other (toString e).toList

/-- The file at a path, if there is a path. -/
def files : Option Text → IO Program.Files
  | none => return fun _ => .error (.system .noSuchFile)
  | some path => do
    try
      let w ← IO.FS.readBinFile (String.ofList path)
      return fun _ => .ok w.toList
    catch e => return fun _ => .error (ioError e)

def put (o : Program.Output) : IO UInt32 := do
  (← IO.getStdout).write ⟨o.stdout.toArray⟩
  IO.eprint (String.ofList o.stderr)
  return o.exit.toUInt32

def pause (d : Duration) : Async (Selector Unit) := Selector.sleep (.ofNat d.millis.toNat)

/-- Ready when something has been done, with its result. -/
def done {α : Type} [Inhabited α] (action : Async α) : Async (Selector α) := do
  let results ← Std.Channel.new
  background (do await (← results.send (← action)))
  return results.recvSelector

def interrupt : Async (Selector Unit) := do
  let signal ← (← Signal.Waiter.mk .sigint false).wait
  done (do let _ ← await signal)

def places (e : Endpoint) : Async (List SocketAddress) := do
  let found ← DNS.getAddrInfo (String.ofList e.host) (toString e.port)
  return found.toList.map fun
    | .v4 a => .v4 ⟨a, e.port⟩
    | .v6 a => .v6 ⟨a, e.port⟩

/-- The first place where something can be done, or why it cannot be done at the last one. -/
def first {α : Type} (action : SocketAddress → Async α) : List SocketAddress → Async α
  | [] => throw (.userError "no address")
  | [a] => action a
  | a :: b :: r => do try action a catch _ => first action (b :: r)

/-! ### An exchange -/

/-- Reports what arrives until the other side closes. -/
partial def receive (s : Socket) (report : Client.Event → Async Unit) : Async Unit := do
  match ← s.recv? 65536 with
  | none => report .closed
  | some w =>
    report (.bytes w.toList)
    receive s report

/-- Sends a command, closes this side and reports what happens. -/
def talk (s : Socket) (command : Command) (report : Client.Event → Async Unit) : Async Unit := do
  report .connected
  try
    s.send ⟨(Framing.encodeCommand command).toArray⟩
    s.shutdown
    receive s report
  catch e => report (.fault (ioError e))

def connect (e : Endpoint) : Async (Except IO.Error Socket) := do
  let reach (a : SocketAddress) : Async Socket := do
    let s ← TCP.Socket.Client.mk
    s.connect a
    return s
  try return .ok (← first reach (← places e)) catch e => return .error e

def call (e : Endpoint) (command : Command) (report : Client.Event → Async Unit) :
    Async Unit := do
  match ← connect e with
  | .ok s => talk s command report
  | .error e => report (.refused (ioError e))

/-- Polls an exchange until it is finished. -/
partial def follow (c : Client) (command : Command) (next : Async Client.Poll)
    (x : Client.Exchange) : Async (Except Failure Bytes) := do
  match x.phase with
  | .finished r => return r
  | _ => follow c command next (c.poll command x (← next))

def exchange (c : Client) (command : Command) : Async (Except Failure Bytes) := do
  let events ← Std.Channel.new
  let deadline ← pause c.timeout
  let stop ← interrupt
  background (call c.endpoint command fun e => do await (← events.send e))
  let next : Async Client.Poll := Selectable.one #[
    .case stop fun _ => return { cancelled := true },
    .case events.recvSelector fun e => return { events := [e] },
    .case deadline fun _ => return { expired := true }]
  follow c command next {}

def client (args : List Text) : IO UInt32 := do
  let files ← files (Program.fileOf ((Program.Client.read args).map (·.1)))
  match Program.Client.plan files args with
  | .finish o => put o
  | .exchange c command => put (Program.Client.finish (← (exchange c command).block))

/-! ### A server -/

/-- Takes what arrives until that is enough, or time is over. -/
partial def hear (s : Settings) (socket : Socket) (deadline : Selector Unit)
    (got : List Framing.Arrival) : Async (List Framing.Arrival) := do
  if Connection.isOpen s got then
    let a : Framing.Arrival ←
      try
        Selectable.one #[
          .case (socket.recvSelector 4096) fun w => return .bytes ((w.map (·.toList)).getD []),
          .case deadline fun _ => return .silence]
      catch e => pure (.fault (ioError e))
    if a = .silence then return got ++ [a] else hear s socket deadline (got ++ [a])
  else return got

/-- Writes a response and closes this side. -/
def deliver (s : Settings) (socket : Socket) (w : Bytes) : Async Unit := do
  let written ← done do
    try
      socket.send ⟨w.toArray⟩
      socket.shutdown
    catch _ => pure ()
  Selectable.one #[
    .case written fun _ => pure (),
    .case (← pause s.writeTimeout) fun _ => pure ()]

/-- Serves a connection; the commands of all connections change one store, one after the
other. -/
def converse (s : Settings) (store : Std.Mutex Store) (socket : Socket) : Async Unit := do
  let arrivals ← hear s socket (← pause s.readTimeout) []
  let response ← store.atomically do
    let o := Connection.serve (Handler.shell Link.reader) s { arrivals } (← get)
    set o.state
    return o.response
  match response with
  | some w => deliver s socket w
  | none => pure ()

/-- What happens at a gate whose loop has to wait: it is cancelled, a connection brings its permit
back, or one comes in. -/
def turn (server : TCP.Socket.Server) (stop : Selector Unit) (ends : Std.Channel Unit)
    (g : Gate Socket) : Async (Gate.Event Socket) := do
  let turns := #[
    .case stop fun _ => return .cancel,
    .case ends.recvSelector fun _ => return .release]
  match g.loop with
  | .listening =>
    try Selectable.one (turns.push (.case server.acceptSelector (return .accept ·)))
    catch _ => return .acceptFailed
  | _ => Selectable.one turns

/-- The next event at a gate, until its loop has been left. A connection that has been accepted is
served meanwhile. -/
def event (converse : Socket → Async Unit) (server : TCP.Socket.Server) (stop : Selector Unit)
    (ends : Std.Channel Unit) (g : Gate Socket) : Async (Option (Gate.Event Socket)) := do
  match g.cancelled, g.loop, g.free with
  | _, .starting, _ => return some .start
  | _, .accepted socket, _ =>
    background do
      try converse socket catch _ => pure ()
      await (← ends.send ())
    return some .spawn
  | _, .pausing, _ =>
    sleep 50
    return some .resume
  | _, .left, _ | true, .panicked, _ => return none
  | true, _, _ => return some .leave
  | false, .acquiring, _ + 1 => return some .acquire
  | false, _, _ => return some (← turn server stop ends g)

/-- Goes on at a gate until its loop has been left; then it waits for the connections inside. -/
partial def accept (s : Settings) (converse : Socket → Async Unit) (server : TCP.Socket.Server)
    (stop : Selector Unit) (ends : Std.Channel Unit) (g : Gate Socket) : Async Unit := do
  match ← event converse server stop ends g with
  | some e => accept s converse server stop ends (g.next s e)
  | none =>
    for _ in List.range (g.inside s) do
      await (← ends.recv)

def serve (s : Settings) : Async UInt32 := do
  let stop ← interrupt
  try
    let server ← first (fun a => do
      let server ← TCP.Socket.Server.mk
      server.bind a
      server.listen 1024
      return server) (← places s.endpoint)
    let store ← Std.Mutex.new {}
    accept s (converse s store) server stop (← Std.Channel.new) (.make s)
    put (Program.Daemon.finish s)
  catch e => put (Program.Daemon.bindFailure (.io (ioError e)))

def daemon (args : List Text) : IO UInt32 := do
  let files ← files (Program.fileOf (Program.Daemon.read args))
  match Program.Daemon.plan files (fun _ => true) args with
  | .finish o => put o
  | .serve s => (serve s).block

end LinkCourier.Main

def main (args : List String) : IO UInt32 := do
  let args := args.map String.toList
  if (← IO.appPath).fileName = some LinkCourier.Program.Daemon.name then
    LinkCourier.Main.daemon args
  else LinkCourier.Main.client args
