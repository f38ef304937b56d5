import Mathlib.Data.List.Basic
import Mathlib.Data.List.Forall2
import Mathlib.Data.List.ReduceOption
import LinkCourier.Proofs.Framing.Carries
import LinkCourier.Relay.Connection

/-!
Connections that are served one after the other. A peer whose stream carries a command has it
handled once; any other peer leaves no trace.
-/

namespace LinkCourier

/-- The shell never fails. -/
lemma Handler.shell_handle {α : Type} (k : Link.Reader α) (st : Store) (c : Command) :
    (Handler.shell k).handle st c = (.ok (Shell.respond k st c).1, (Shell.respond k st c).2) := rfl

namespace Connection

variable {σ : Type} {s : Settings} {p : Peer} {c : Command}

/-- The command of a peer, if there is one. -/
def heard (s : Settings) (p : Peer) : Option Command :=
  match receive s p with
  | .ok c => c
  | .error _ => none
  | .panicked => none

theorem heard_eq_some_iff : heard s p = some c ↔ Framing.Carries s.maxLineBytes p.arrivals c := by
  rw [← Framing.readCommand_eq_some_iff, heard, receive]
  rcases (({ limit := s.maxLineBytes } : Framing.Codec).readCommand p.arrivals).1.answer with
    (f | d | _) | _
  · by_cases hf : f.isDisconnect <;> simp [hf]
  · simp
  · simp
  · simp

/-! ### One connection -/

section

variable (h : Handler σ) (st : σ)

/-- Without a command nothing is handled and nothing is answered. -/
lemma serve_of_heard_eq_none (hp : heard s p = none) :
    (serve h s p st).response = none ∧ (serve h s p st).state = st ∧
      (serve h s p st).entries.count .dispatched = 0 := by
  rw [heard] at hp
  rcases hr : receive s p with f | d | _
  · simp [serve, hr]
  · obtain rfl : d = none := by simpa [hr] using hp
    simp [serve, hr]
  · simp [serve, hr]

/-- A command is handled once, whatever comes of writing the response. -/
lemma serve_of_heard_eq_some (hp : heard s p = some c) :
    (serve h s p st).response = (h.handle st c).1.toOption ∧
      (serve h s p st).state = (h.handle st c).2 ∧
      (serve h s p st).entries.count .dispatched = 1 := by
  rw [heard] at hp
  rcases hr : receive s p with f | d | _
  · simp [hr] at hp
  · obtain rfl : d = some c := by simpa [hr] using hp
    rcases hc : h.handle st c with ⟨f | w, st'⟩
    · simp [serve, hr, hc, Except.toOption]
    · rcases hw : respond s p w with f | _ <;> simp [serve, hr, hc, hw, Except.toOption]
  · simp [hr] at hp

end

end Connection

/-! ### One connection after the other -/

namespace Shell

/-- The responses to commands in order, each with the store that it leaves. Where there is no
command there is no response, and the store stays. -/
def answerAll {α : Type} (k : Link.Reader α) (st : Store) :
    List (Option Command) → List (Option Bytes × Store)
  | [] => []
  | none :: cs => (none, st) :: answerAll k st cs
  | some c :: cs =>
    let (w, st) := respond k st c
    (some w, st) :: answerAll k st cs

/-- The store after commands in order. -/
def handleAll {α : Type} (k : Link.Reader α) (st : Store) (cs : List Command) : Store :=
  cs.foldl (fun st c => (respond k st c).2) st

end Shell

namespace Connection

variable {α : Type}

lemma serveAll_heard (k : Link.Reader α) (s : Settings) (ps : List Peer) (st : Store) :
    (serveAll (Handler.shell k) s st ps).1.map (fun o => (o.response, o.state)) =
        Shell.answerAll k st (ps.map (heard s)) ∧
      (serveAll (Handler.shell k) s st ps).2 =
        Shell.handleAll k st (ps.map (heard s)).reduceOption := by
  induction ps generalizing st with
  | nil => exact ⟨rfl, rfl⟩
  | cons p ps ih =>
    rcases hp : heard s p with _ | c
    · obtain ⟨hresponse, hstate, -⟩ := serve_of_heard_eq_none (Handler.shell k) st hp
      obtain ⟨hall, hend⟩ := ih (serve (Handler.shell k) s p st).state
      rw [hstate] at hall hend
      simp [serveAll, Shell.answerAll, hp, hresponse, hstate, hall, hend]
    · obtain ⟨hresponse, hstate, -⟩ := serve_of_heard_eq_some (Handler.shell k) st hp
      obtain ⟨hall, hend⟩ := ih (serve (Handler.shell k) s p st).state
      rw [Handler.shell_handle] at hresponse hstate
      rw [hstate] at hall hend
      simp [serveAll, Shell.answerAll, Shell.handleAll, hp, hresponse, hstate, hall, hend,
        Except.toOption]

/-- **All or nothing**: the store is that of handling, in order, the commands of the peers whose
streams carry one. Each of them has its response; no other peer has any, nor leaves a trace in
the store. -/
theorem serveAll_shell (k : Link.Reader α) (s : Settings) (ps : List Peer) (st : Store) :
    ∃ cs : List (Option Command),
      List.Forall₂ (fun (p : Peer) c =>
        ∀ d, c = some d ↔ Framing.Carries s.maxLineBytes p.arrivals d) ps cs ∧
      (serveAll (Handler.shell k) s st ps).1.map (fun o => (o.response, o.state)) =
        Shell.answerAll k st cs ∧
      (serveAll (Handler.shell k) s st ps).2 = Shell.handleAll k st cs.reduceOption := by
  refine ⟨ps.map (heard s), ?_, serveAll_heard k s ps st⟩
  rw [List.forall₂_map_right_iff, List.forall₂_same]
  exact fun p _ d => heard_eq_some_iff

end Connection

end LinkCourier
