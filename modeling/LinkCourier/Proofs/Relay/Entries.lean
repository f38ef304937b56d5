import Mathlib.Data.List.Infix
import LinkCourier.Proofs.Relay.Stages

/-!
The entries of one connection in the ledger.

There are five courses that they can take, and none are made where reading panics. In each course a
failure of the handler follows a dispatch, and an error with which the connection closes has been
entered once, as that of the handler or as another one.
-/

namespace LinkCourier

namespace Ledger

/-- The counter of an entry. -/
def counter (g : Ledger) : Entry → Nat
  | .accepted => g.accepted
  | .closed => g.closed
  | .dispatched => g.dispatched
  | .handlerFailure => g.handlerFailures
  | .ioError => g.ioErrors

lemma counter_record (g : Ledger) (e a : Entry) :
    (g.record a).counter e = g.counter e + if a = e then 1 else 0 := by
  cases a <;> cases e <;> rfl

lemma counter_recordAll (g : Ledger) (es : List Entry) (e : Entry) :
    (g.recordAll es).counter e = g.counter e + es.count e := by
  induction es generalizing g with
  | nil => rfl
  | cons a es ih =>
    have hrest := ih (g.record a)
    rw [counter_record] at hrest
    rw [recordAll, List.foldl_cons, ← recordAll, hrest, List.count_cons]
    simp only [beq_iff_eq]
    omega

/-- How the entries of connections compare, at any time. -/
structure Orderly (es : List Entry) : Prop where
  handled : es.count .handlerFailure ≤ es.count .dispatched
  dispatched : es.count .dispatched ≤ es.count .accepted
  closed : es.count .closed ≤ es.count .accepted
  failed : es.count .ioError + es.count .handlerFailure ≤ es.count .accepted

instance (es : List Entry) : Decidable (Orderly es) :=
  decidable_of_iff
    (es.count .handlerFailure ≤ es.count .dispatched ∧ es.count .dispatched ≤ es.count .accepted ∧
      es.count .closed ≤ es.count .accepted ∧
      es.count .ioError + es.count .handlerFailure ≤ es.count .accepted)
    ⟨fun ⟨a, b, c, d⟩ => ⟨a, b, c, d⟩, fun h => ⟨h.1, h.2, h.3, h.4⟩⟩

lemma orderly_nil : Orderly [] := by decide

lemma Orderly.append {u v : List Entry} (hu : Orderly u) (hv : Orderly v) : Orderly (u ++ v) := by
  constructor <;> simp only [List.count_append]
  · exact Nat.add_le_add hu.handled hv.handled
  · exact Nat.add_le_add hu.dispatched hv.dispatched
  · exact Nat.add_le_add hu.closed hv.closed
  · have := hu.failed
    have := hv.failed
    omega

lemma orderly_flatten {l : List (List Entry)} (h : ∀ es ∈ l, Orderly es) : Orderly l.flatten := by
  induction l with
  | nil => exact orderly_nil
  | cons es l ih =>
    have hrest : Orderly l.flatten := ih fun es' hes' => h es' (List.mem_cons_of_mem es hes')
    rw [List.flatten_cons]
    exact (h es List.mem_cons_self).append hrest

end Ledger

namespace Connection

open Ledger (Entry Orderly)

variable {σ : Type} {h : Handler σ} {s : Settings} {p : Peer} {es : List Entry}

/-- The entries with which a connection may come to its end. -/
def courses : List (List Entry) := [
  [],
  [.ioError, .closed],
  [.closed],
  [.dispatched, .handlerFailure, .closed],
  [.dispatched, .closed],
  [.dispatched, .ioError, .closed]]

lemma serve_mem_courses (h : Handler σ) (s : Settings) (p : Peer) (st : σ) :
    (serve h s p st).entries ∈ courses := by
  rcases serve_cases h s p st with
    ⟨-, ho⟩ | ⟨f, -, ho⟩ | ⟨-, ho⟩ | ⟨c, f, st', -, -, ho⟩ | ⟨c, w, st', -, -, ho⟩
  · simp [ho, courses]
  · simp [ho, courses]
  · simp [ho, courses]
  · simp [ho, courses]
  · rcases hr : respond s p w with f | u
    · simp [ho, hr, courses, reported_of_ne (kind_of_respond hr)]
    · simp [ho, hr, courses, reported]

/-- However far a connection has come, its entries are in order, and it has been entered as failed
once at most. -/
lemma Sound.orderly {x : Stage} {w : Option Bytes} (hx : Sound h s p x w es) (st : σ) :
    Orderly (.accepted :: es) ∧ es.count .ioError + es.count .handlerFailure ≤ 1 := by
  have hall : ∀ l ∈ courses, ∀ es ∈ l.inits,
      Orderly (.accepted :: es) ∧ es.count .ioError + es.count .handlerFailure ≤ 1 := by
    decide
  obtain ⟨st', hes, -⟩ := hx.begins st
  exact hall _ (serve_mem_courses h s p st') es ((List.mem_inits _ _).2 hes)

/-- A result is an error of such a kind. -/
def fails (q : Failure.Kind → Bool) : Except Failure Unit → Bool
  | .error f => q f.kind
  | .ok () => false

/-- The connection has closed with an error of such a kind. -/
def Task.failed (q : Failure.Kind → Bool) (t : Task) : Bool :=
  match t.stage with
  | .closed x => fails q x
  | _ => false

lemma Task.failed_of_closed {t : Task} {x : Except Failure Unit} (hx : t.stage = .closed x)
    (q : Failure.Kind → Bool) : t.failed q = fails q x := by
  rw [Task.failed, hx]

lemma Task.exists_closed {t : Task} (h : t.finished) : ∃ x, t.stage = .closed x := by
  unfold Task.finished at h
  split at h
  · exact ⟨_, ‹_›⟩
  · cases h

lemma Task.stage_of_panicked {t : Task} (h : t.panicked) : t.stage = .panicked := by
  unfold Task.panicked at h
  split at h
  · assumption
  · cases h

/-- The entries of an outcome with a result say what it is: whether a command was dispatched, and
whether the result is an error of the handler or another one. -/
structure Truthful (s : Settings) (p : Peer) (o : Outcome σ) (x : Except Failure Unit) : Prop where
  closed : o.entries.count .closed = 1
  dispatched : o.entries.count .dispatched = (heard s p).isSome.toNat
  handlerFailure : o.entries.count .handlerFailure = (fails (· = .handler) x).toNat
  ioError : o.entries.count .ioError = (fails (· ≠ .handler) x).toNat

lemma truthful_serve {st : σ} {x : Except Failure Unit}
    (hx : (serve h s p st).result = .ofExcept x) : Truthful s p (serve h s p st) x := by
  rcases serve_cases h s p st with
    ⟨-, ho⟩ | ⟨f, hr, ho⟩ | ⟨hr, ho⟩ | ⟨c, f, st', hr, -, ho⟩ | ⟨c, w, st', hr, -, ho⟩
  all_goals rw [ho] at hx ⊢
  · cases x <;> cases hx
  · obtain rfl : .error f = x := Result.ofExcept_inj.1 hx
    have hf : f.kind ≠ .handler := kind_of_receive hr
    constructor <;> simp [heard, hr, fails, hf]
  · obtain rfl : .ok () = x := Result.ofExcept_inj.1 hx
    constructor <;> simp [heard, hr, fails]
  · obtain rfl : .error (handlerFailure f) = x := Result.ofExcept_inj.1 hx
    have hf : (handlerFailure f).kind = .handler := kind_handlerFailure f
    constructor <;> simp [heard, hr, fails, hf]
  · obtain rfl : respond s p w = x := Result.ofExcept_inj.1 hx
    rcases hd : respond s p w with f | u
    · have hf : f.kind ≠ .handler := kind_of_respond hd
      constructor <;> simp [heard, hr, fails, hf, reported_of_ne hf]
    · constructor <;> simp [heard, hr, fails, reported]

lemma serve_silent {st : σ} (hmem : .handlerFailure ∈ (serve h s p st).entries) :
    (serve h s p st).response = none := by
  rcases serve_cases h s p st with
    ⟨-, ho⟩ | ⟨f, -, ho⟩ | ⟨-, ho⟩ | ⟨c, f, st', -, -, ho⟩ | ⟨c, w, st', -, -, ho⟩
  all_goals rw [ho] at hmem ⊢
  rcases hd : respond s p w with f | u
  · simp [hd, reported_of_ne (kind_of_respond hd)] at hmem
  · simp [hd, reported] at hmem

/-- Nothing is written for a command whose failure has been entered as that of the handler. -/
lemma Sound.silent {x : Stage} {w : Option Bytes} (hx : Sound h s p x w es) (st : σ)
    (hmem : .handlerFailure ∈ es) : w = none := by
  obtain ⟨st', hes, hw | hw⟩ := hx.begins st
  · exact hw
  · rw [hw]
    exact serve_silent (hes.subset hmem)

/-- A connection that has closed with a result: the outcome that it has come to, and its entries,
where an error is entered once, by its kind. -/
structure Settled (h : Handler σ) (s : Settings) (t : Task) (x : Except Failure Unit) : Prop where
  outcome : ∃ st, (serve h s t.peer st).result = .ofExcept x ∧
    (serve h s t.peer st).response = t.response ∧ (serve h s t.peer st).entries = t.entries
  closed : t.entries.count .closed = 1
  heard : (∃ c, Framing.Carries s.maxLineBytes t.peer.arrivals c) →
    t.entries.count .dispatched = 1
  unheard : (¬ ∃ c, Framing.Carries s.maxLineBytes t.peer.arrivals c) →
    t.entries.count .dispatched = 0
  handlerFailure : t.entries.count .handlerFailure = (fails (· = .handler) x).toNat
  ioError : t.entries.count .ioError = (fails (· ≠ .handler) x).toNat

lemma Sound.settled {t : Task} {x : Except Failure Unit}
    (ht : Sound h s t.peer (.closed x) t.response t.entries) : Settled h s t x := by
  obtain ⟨st, hresult, hresponse, hentries⟩ := ht.outcome
  have htruth : Truthful s t.peer (serve h s t.peer st) x := truthful_serve hresult
  have hheard (c : Command) : Framing.Carries s.maxLineBytes t.peer.arrivals c ↔
      heard s t.peer = some c := heard_eq_some_iff.symm
  constructor
  · exact ⟨st, hresult, hresponse, hentries⟩
  · rw [← hentries, htruth.closed]
  · rintro ⟨c, hc⟩
    rw [← hentries, htruth.dispatched, (hheard c).1 hc]
    rfl
  · intro hno
    have hnone : heard s t.peer = none := by
      rw [Option.eq_none_iff_forall_ne_some]
      exact fun c hc => hno ⟨c, (hheard c).2 hc⟩
    rw [← hentries, htruth.dispatched, hnone]
    rfl
  · rw [← hentries, htruth.handlerFailure]
  · rw [← hentries, htruth.ioError]

/-- A connection panics only with the largest limit, before anything has been done for it. -/
lemma Sound.gone {t : Task} (ht : Sound h s t.peer t.stage t.response t.entries)
    (hpanic : t.panicked) :
    s.maxLineBytes.toNat + 1 = UInt64.size ∧ t.entries = [] ∧ t.response = none := by
  obtain ⟨p, stage, response, entries⟩ := t
  obtain rfl : stage = .panicked := Task.stage_of_panicked hpanic
  cases ht with
  | panicked hr =>
    have hmax := receive_eq_panicked_iff.1 hr
    exact ⟨(Framing.below_or_largest s.maxLineBytes).resolve_left hmax, rfl, rfl⟩

end Connection

end LinkCourier
