import LinkCourier.Relay.Server

/-!
Scripted peers, to try a server with: what a peer sends, and how it ends.
-/

namespace LinkCourier.Trial

/-- Whether connections can be made to this machine. -/
inductive Route where
  | free
  | blocked (e : IoError)
  deriving DecidableEq, Repr

/-- How a peer ends: it closes its side and reads the reply, it waits for the server to close,
it resets the connection before or while it is answered, or it closes its side and never
reads. -/
inductive Ending where
  | halfClose | stayOpen | reset | resetMidResponse | neverRead
  deriving DecidableEq, Repr

structure RawPeer where
  chunks : List Bytes
  ending : Ending := .halfClose

namespace RawPeer

/-- What is written without being read fits into the buffers between, up to this size. -/
def buffered : Nat := 16 * 1024 * 1024

def sent (p : RawPeer) : List Framing.Arrival := p.chunks.map .bytes

def toPeer (p : RawPeer) : Peer where
  arrivals := p.sent ++ match p.ending with
    | .stayOpen => [.silence]
    | .reset => [.fault (.system .connectionReset)]
    | _ => []
  delivery w := match p.ending with
    | .resetMidResponse => .fault (.system .connectionReset)
    | .neverRead => if buffered < w.length then .stalled else .written
    | _ => .written

/-- What the peer gets to see, if it reads at all. -/
def reply {σ : Type} (p : RawPeer) (o : Connection.Outcome σ) : Option Bytes :=
  match p.ending with
  | .halfClose | .stayOpen => some (o.response.getD [])
  | _ => none

/-- The sequence of the peer is over before the peer ends. -/
def endsEarly (s : Settings) (p : RawPeer) : Bool := !Connection.isOpen s p.sent

end RawPeer

/-! ### Several peers -/

/-- Serves peers one after the other: the reply to each, and the ledger after it. -/
def inTurn {σ : Type} (h : Handler σ) (s : Settings) (r : Server.Running σ) :
    List RawPeer → List (Option Bytes × Ledger) × Server.Running σ
  | [] => ([], r)
  | p :: ps =>
    let (o, r) := r.serve h s p.toPeer
    let (rest, r) := inTurn h s r ps
    ((p.reply o, r.ledger) :: rest, r)

/-- The order in which peers are served that all send before the first one ends. A peer whose
sequence is over is served at once, the others hold a permit until they end in turn. -/
def order {α : Type} (early : α → Bool) (free : Nat) (held waiting : List α) : List α :=
  match waiting, held with
  | p :: ps, held =>
    if free = 0 then match held with
      | [] => []
      | h :: hs => h :: order early (free + 1) hs (p :: ps)
    else if early p then p :: order early free held ps
    else order early (free - 1) (held ++ [p]) ps
  | [], held => held
termination_by 2 * waiting.length + held.length
decreasing_by all_goals (simp only [List.length_cons, List.length_append, List.length_nil]; omega)

/-- Serves peers that are there at the same time: the replies in the order of the peers. -/
def together {σ : Type} (h : Handler σ) (s : Settings) (r : Server.Running σ)
    (ps : List RawPeer) : List (Option Bytes) × Server.Running σ :=
  let turn := order (fun (p, _) => p.endsEarly s) s.maxConnections.toNat [] ps.zipIdx
  let (replies, r) := inTurn h s r (turn.map (·.1))
  let found := (turn.map (·.2)).zip (replies.map (·.1))
  ((List.range ps.length).map fun i => (found.lookup i).join, r)

end LinkCourier.Trial
