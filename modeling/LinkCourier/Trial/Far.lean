import LinkCourier.Relay.Client
import LinkCourier.Trial.Peer

/-!
What a client can be tried with: a server, a scripted daemon, or nothing at all.
-/

namespace LinkCourier.Trial

/-- What a scripted daemon does after it has read the request and sent its reply. -/
inductive Mode where
  | reply | hold | reset | refuse
  deriving DecidableEq, Repr

/-- When the client is told to give up. -/
inductive Cancel where
  | never | before | during
  deriving DecidableEq, Repr

inductive Far (σ : Type) where
  | server (h : Handler σ) (s : Settings) (r : Server.Running σ)
  | scripted (mode : Mode) (reply : Unit → List Bytes)
  | nothing

/-- Everything that a client sees of a scripted daemon. -/
def scripted (mode : Mode) (reply : List Bytes) : List Client.Poll :=
  let events := .connected :: reply.map .bytes
  match mode with
  | .reply => [{ events := events ++ [.closed] }]
  | .reset => [{ events := events ++ [.fault (.system .connectionReset)] }]
  | .hold => [{ events }, { expired := true }]
  | .refuse => [{ events := [.refused (.system .connectionRefused)] }]

/-- Everything that a client sees of a server, and the server afterwards. -/
def served {σ : Type} (h : Handler σ) (s : Settings) (r : Server.Running σ) (c : Command) :
    List Client.Poll × Server.Running σ :=
  let (o, r) := r.serve h s { arrivals := [.bytes (Framing.encodeCommand c)] }
  ([{ events := [.connected, .bytes (o.response.getD []), .closed] }], r)

/-- One exchange of a client with the far side. -/
def converse {σ : Type} (route : Route) (cancel : Cancel) (far : Far σ) (client : Client)
    (command : Command) : Client.Outcome × Far σ :=
  let outcome (ps : List Client.Poll) :=
    client.send command {} (match cancel with
      | .never => ps
      | .before => [{ cancelled := true }]
      | .during => ps.take 1 |>.map (fun p => { p with events := p.events.take 1 })
          |>.append [{ cancelled := true }])
  match route, far with
  | .blocked e, far => (outcome [{ events := [.refused e] }], far)
  | .free, .nothing => (outcome [{ events := [.refused (.system .connectionRefused)] }], .nothing)
  | .free, .scripted mode reply => (outcome (scripted mode (reply ())), .scripted mode reply)
  | .free, .server h s r =>
    if cancel = .before then (outcome [], .server h s r)
    else
      let (ps, r) := served h s r command
      (outcome ps, .server h s r)

end LinkCourier.Trial
