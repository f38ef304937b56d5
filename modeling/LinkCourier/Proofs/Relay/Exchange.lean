import Mathlib.Data.List.Basic
import LinkCourier.Proofs.Framing.Carries
import LinkCourier.Proofs.Framing.Response
import LinkCourier.Relay.Client

/-!
An exchange as its client sees it. How the polls divide what happens makes no difference as
long as nobody gives up, and what the exchange comes to is what reading the response from the
stream comes to.
-/

namespace LinkCourier.Client

variable {client : Client} {command : Command} {x : Exchange} {r : Except Failure Bytes}

/-- What a client makes of a response. -/
def delivered (c : Client) (w : Bytes) : Except Failure Bytes :=
  if w.length ≤ c.limit.toNat then .ok w else .error (.responseTooLarge c.limit)

/-- Nobody gives up, and a connection is made that brings `w` in some reads and is closed. -/
structure Undisturbed (w : Bytes) (polls : List Poll) : Prop where
  cancelled : ∀ p ∈ polls, p.cancelled = false
  expired : ∀ p ∈ polls, p.expired = false
  events : ∃ reads, Framing.Cut w reads ∧
    polls.flatMap (·.events) = .connected :: reads.map .bytes ++ [.closed]

/-! ### Events -/

/-- Nothing happens after the end. -/
lemma foldl_advance_finished (hx : x.phase = .finished r) (es : List Event) :
    es.foldl (client.advance command) x = x := by
  induction es with
  | nil => rfl
  | cons e es ih =>
    have he : client.advance command x e = x := by
      rw [advance.eq_def, hx]
    rw [List.foldl_cons, he, ih]

/-- Reads are kept as long as they fit. -/
lemma foldl_advance_bytes {got : Bytes} (hgot : got.length ≤ client.limit.toNat)
    (sent : Option Bytes) (reads : List Bytes) :
    (reads.map Event.bytes).foldl (client.advance command) ⟨.receiving got, sent⟩ =
      if (got ++ reads.flatten).length ≤ client.limit.toNat then
        ⟨.receiving (got ++ reads.flatten), sent⟩
      else ⟨.finished (.error (.responseTooLarge client.limit)), sent⟩ := by
  induction reads generalizing got with
  | nil => simp [hgot]
  | cons w reads ih =>
    rw [List.map_cons, List.foldl_cons, List.flatten_cons, ← List.append_assoc]
    by_cases hlt : client.limit.toNat < got.length + w.length
    · have hlong : ¬ (got ++ w ++ reads.flatten).length ≤ client.limit.toNat := by
        simp only [List.length_append]
        omega
      simp only [advance, hlt, if_true]
      rw [foldl_advance_finished rfl, if_neg hlong]
    · simp only [advance, hlt, if_false]
      exact ih (by simpa using hlt)

lemma foldl_advance_reads {got : Bytes} (hgot : got.length ≤ client.limit.toNat)
    (sent : Option Bytes) (reads : List Bytes) :
    (reads.map Event.bytes ++ [Event.closed]).foldl (client.advance command)
      ⟨.receiving got, sent⟩ = ⟨.finished (client.delivered (got ++ reads.flatten)), sent⟩ := by
  rw [List.foldl_append, foldl_advance_bytes hgot, delivered]
  split <;> rfl

/-! ### Polls -/

lemma poll_eq (client : Client) (command : Command) (x : Exchange) {p : Poll}
    (hc : p.cancelled = false) (he : p.expired = false) :
    client.poll command x p = p.events.foldl (client.advance command) x := by
  rw [poll, hc, he]
  simp only [Bool.false_eq_true, if_false]
  split <;> rfl

/-- What an exchange has come to up to now. -/
def Exchange.outcome (x : Exchange) : Outcome where
  result := match x.phase with
    | .finished r => some r
    | _ => none
  sent := x.sent

lemma Exchange.outcome_of_finished (hx : x.phase = .finished r) :
    x.outcome = ⟨some r, x.sent⟩ := by
  simp only [outcome, hx]

lemma Exchange.outcome_of_running (hx : ∀ r, x.phase ≠ .finished r) :
    x.outcome = ⟨none, x.sent⟩ := by
  unfold outcome
  split
  · exact absurd ‹_› (hx _)
  · rfl

/-- An exchange comes to what its events come to, in whatever polls they are seen. -/
lemma send_eq {polls : List Poll} (hc : ∀ p ∈ polls, p.cancelled = false)
    (he : ∀ p ∈ polls, p.expired = false) (hx : ∀ r, x.phase ≠ .finished r) :
    client.send command x polls =
      ((polls.flatMap (·.events)).foldl (client.advance command) x).outcome := by
  induction polls generalizing x with
  | nil => exact (Exchange.outcome_of_running hx).symm
  | cons p polls ih =>
    have hpoll := poll_eq client command x (hc p (by simp)) (he p (by simp))
    rw [List.flatMap_cons, List.foldl_append, ← hpoll, send]
    split
    · rename_i r hr
      rw [foldl_advance_finished hr, Exchange.outcome_of_finished hr]
    · rename_i hne
      exact ih (fun q hq => hc q (by simp [hq])) (fun q hq => he q (by simp [hq])) hne

/-- **An undisturbed exchange** sends the command and delivers the response. -/
theorem send_of_undisturbed (client : Client) (command : Command) {w : Bytes} {polls : List Poll}
    (h : Undisturbed w polls) :
    client.send command {} polls =
      ⟨some (client.delivered w), some (Framing.encodeCommand command)⟩ := by
  obtain ⟨reads, hcut, hevents⟩ := h.events
  have hnil : ([] : Bytes).length ≤ client.limit.toNat := Nat.zero_le _
  rw [send_eq h.cancelled h.expired (by simp), hevents, List.cons_append, List.foldl_cons,
    ← hcut.flatten_eq]
  exact congrArg Exchange.outcome (foldl_advance_reads hnil _ reads)

/-! ### The response as a stream -/

/-- What an exchange sees of a stream, up to its end. -/
def Event.ofStream : List Framing.Arrival → List Event
  | [] => [.closed]
  | .bytes w :: as => if w = [] then [.closed] else .bytes w :: ofStream as
  | .fault e :: _ => [.fault e]
  | .silence :: _ => []

/-- What a call comes to that waits for the end of the exchange. -/
def Outcome.answer (o : Outcome) : Framing.Answer Bytes :=
  o.result.elim .waiting fun r => .done (.ofExcept r)

open Framing (Arrival allowance brought judged readUpTo readResponse)

/-- A response of which `got` has come, with room for some more bytes. -/
lemma answer_ofStream (command : Command) (sent : Option Bytes) {as : List Arrival}
    {got : List Bytes} {room taken : ℕ}
    (hroom : got.reverse.flatten.length + room = allowance client.limit)
    (hfits : got.reverse.flatten.length ≤ client.limit.toNat)
    (hcount : client.limit.toNat + 1 = UInt64.size →
      got.reverse.flatten.length + (brought as).length + 1 < UInt64.size) :
    ((Event.ofStream as).foldl (client.advance command)
        ⟨.receiving got.reverse.flatten, sent⟩).outcome.answer =
      judged client.limit (readUpTo room taken got as).1 := by
  have hsize : client.limit.toNat < UInt64.size := client.limit.toNat_lt_size
  have hallow : allowance client.limit = min (client.limit.toNat + 1) (UInt64.size - 1) := rfl
  have hpos : room ≠ 0 := by omega
  have hle : ¬ client.limit.toNat < got.reverse.flatten.length := Nat.not_lt.2 hfits
  induction as generalizing got room taken with
  | nil =>
    simp only [Event.ofStream, readUpTo, judged, if_neg hle]
    rfl
  | cons a as ih =>
    cases a with
    | silence =>
      simp only [Event.ofStream, readUpTo, if_neg hpos]
      rfl
    | fault e =>
      simp only [Event.ofStream, readUpTo, if_neg hpos]
      rfl
    | bytes w =>
      by_cases hw : w = []
      · simp only [Event.ofStream, readUpTo, hw, if_true, true_or, judged, if_neg hle]
        rfl
      have hbrought : brought (.bytes w :: as) = w ++ brought as := by
        simp [brought, Framing.pieces, hw]
      rw [hbrought, List.length_append] at hcount
      rw [Framing.readUpTo_bytes hw hpos, Event.ofStream, if_neg hw, List.foldl_cons]
      by_cases hlong : client.limit.toNat < got.reverse.flatten.length + w.length
      · have htake : (w.take room).length = room := List.length_take_of_le (by omega)
        have hread : client.limit.toNat < (w.take room :: got).reverse.flatten.length := by
          rw [List.reverse_cons, List.flatten_append, List.flatten_singleton, List.length_append]
          omega
        simp only [advance, hlong, if_true]
        rw [foldl_advance_finished rfl, htake, Nat.sub_self, Framing.readUpTo_zero, judged,
          if_pos hread]
        rfl
      · have hroomy : w.length ≤ room := by omega
        have htake : w.take room = w := List.take_of_length_le hroomy
        have hgot : (w :: got).reverse.flatten = got.reverse.flatten ++ w := by simp
        have hlen := congrArg List.length hgot
        rw [List.length_append] at hlen
        simp only [advance, hlong, if_false]
        rw [htake, ← hgot]
        exact ih (by omega) (by omega) (by omega) (by omega) (by omega)

/-- **An exchange that nobody gives up** comes to what reading the response from the stream comes
to, in whatever polls it is seen. -/
theorem send_answer (client : Client) (command : Command) {as : List Arrival} {polls : List Poll}
    (hc : ∀ p ∈ polls, p.cancelled = false) (he : ∀ p ∈ polls, p.expired = false)
    (hevents : polls.flatMap (·.events) = .connected :: Event.ofStream as)
    (hcount : client.limit.toNat + 1 = UInt64.size → (brought as).length + 1 < UInt64.size) :
    (client.send command {} polls).answer = (readResponse client.limit as).answer := by
  rw [Framing.readResponse_answer, send_eq hc he (by simp), hevents]
  have hnil : ([] : List Bytes).reverse.flatten.length = 0 := rfl
  exact answer_ofStream command _ (by rw [hnil, Nat.zero_add]) (Nat.zero_le _)
    (by rwa [hnil, Nat.zero_add])

/-! ### Failures that are no refusals -/

/-- The exchange has not ended with a command that is none. -/
def Allowed (x : Exchange) : Prop := ∀ f, x.phase ≠ .finished (.error (.invalidCommand f))

lemma Allowed.advance (h : Allowed x) (e : Event) : Allowed (client.advance command x e) := by
  intro f
  rw [Client.advance.eq_def]
  split
  · simp
  · simp
  · split <;> simp
  · simp
  · simp
  · exact h f

lemma Allowed.poll (h : Allowed x) (p : Poll) : Allowed (client.poll command x p) := by
  have hfold : Allowed (p.events.foldl (client.advance command) x) :=
    List.foldlRecOn p.events _ h fun y hy e _ => hy.advance e
  intro f
  rw [Client.poll]
  split
  · simp
  · simp only
    split
    · exact hfold f
    · split
      · simp
      · exact hfold f

/-- Once a command is sent, it is not said to be none. -/
lemma send_ne_invalidCommand (h : Allowed x) (polls : List Poll) (f : Command.Fault) :
    (client.send command x polls).result ≠ some (.error (.invalidCommand f)) := by
  induction polls generalizing x with
  | nil => simp [send]
  | cons p polls ih =>
    have hp : Allowed (client.poll command x p) := h.poll p
    rw [send]
    split
    · rename_i r hr
      intro hresult
      exact hp f (hr.trans (congrArg Phase.finished (Option.some.inj hresult)))
    · exact ih hp

end LinkCourier.Client
