import LinkCourier.Proofs.Relay.Turns
import LinkCourier.Relay.Task

/-!
The stages of a connection. Whatever has become of the handler's state between its steps, a
connection that has closed has come to what `serve` comes to in one of these states.
-/

namespace LinkCourier.Connection

open Ledger (Entry)

/-! ### Kinds of failures -/

lemma kind_handlerFailure (f : Failure) : (handlerFailure f).kind = .handler := by
  cases f <;> rfl

lemma kind_of_result {v : Framing.Verdict} {f : Failure} (h : v.result = .error f) :
    f.kind = .framing := by
  rw [Framing.Verdict.result] at h
  split at h
  · cases h
  · cases h
    rfl

/-- Reading fails because of the stream or because of what it brings. -/
lemma kind_of_listen {limit : UInt64} {got : Bytes} {as : List Framing.Arrival} {f : Failure}
    (h : Framing.listen limit got as = .done (.error f)) : f.kind = .framing ∨ f.kind = .io := by
  have hres (v : Framing.Verdict) (hv : Framing.Answer.done v.result = .done (.error f)) :
      f.kind = .framing ∨ f.kind = .io :=
    .inl (kind_of_result (Framing.Answer.done.inj hv))
  fun_induction Framing.listen limit got as with
  | case1 as got ls hv hlim hlong =>
    cases h
    exact .inl rfl
  | case2 got ls hv hlim hlong => exact hres _ h
  | case3 got ls hv hlim hlong rest => exact hres _ h
  | case4 got ls hv hlim hlong w rest hw ih => exact ih h
  | case5 got ls hv hlim hlong e rest =>
    cases h
    exact .inr rfl
  | case6 => cases h
  | case7 => cases h
  | case8 as got hv => exact hres _ h

variable {s : Settings} {p : Peer}

lemma kind_of_receive {f : Failure} (h : receive s p = .error f) : f.kind ≠ .handler := by
  rw [receive] at h
  split at h
  · cases h
    simp [Failure.kind]
  · cases h
  · rename_i g hg
    rw [Framing.readCommand_eq_listen rfl] at hg
    split at h
    · cases h
    · cases h
      rcases kind_of_listen hg with hk | hk <;> simp [hk]
  · cases h

/-- A connection panics only where reading does. -/
lemma receive_eq_panicked_iff :
    receive s p = .panicked ↔ ¬ s.maxLineBytes.toNat + 1 < UInt64.size := by
  rw [← Framing.readCommand_eq_panicked_iff p.arrivals, receive]
  rcases (({ limit := s.maxLineBytes } : Framing.Codec).readCommand p.arrivals).1.answer with
    (f | d | _) | _
  · by_cases hf : f.isDisconnect <;> simp [hf]
  · simp
  · simp
  · simp

lemma kind_of_respond {w : Bytes} {f : Failure} (h : respond s p w = .error f) :
    f.kind ≠ .handler := by
  rw [respond] at h
  split at h
  · cases h
  · split at h
    · cases h
    · cases h
      simp [Failure.kind]
  · cases h
    simp [Failure.kind]

/-! ### The outcomes -/

variable {σ : Type}


section

variable {c : Command} {f : Failure} {w : Bytes} {h : Handler σ} {st st' : σ}

lemma reported_of_ne (hf : f.kind ≠ .handler) : reported (.error f) = [.ioError] :=
  if_neg hf

lemma serve_of_error (hr : receive s p = .error f) :
    serve h s p st = ⟨.error f, none, [.ioError, .closed], st⟩ := by
  rw [serve, hr]

lemma serve_of_none (hr : receive s p = .ok none) :
    serve h s p st = ⟨.ok (), none, [.closed], st⟩ := by
  rw [serve, hr]

lemma serve_of_failed (hr : receive s p = .ok (some c)) (hf : h.handle st c = (.error f, st')) :
    serve h s p st =
      ⟨.error (handlerFailure f), none, [.dispatched, .handlerFailure, .closed], st'⟩ := by
  simp only [serve, hr, hf]

lemma serve_of_answered (hr : receive s p = .ok (some c)) (hw : h.handle st c = (.ok w, st')) :
    serve h s p st =
      ⟨.ofExcept (respond s p w), some w, .dispatched :: reported (respond s p w) ++ [.closed],
        st'⟩ := by
  rcases hd : respond s p w with f | u
  · simp only [serve, hr, hw, hd, reported_of_ne (kind_of_respond hd)]
    rfl
  · simp only [serve, hr, hw, hd]
    rfl

lemma serve_of_panicked (hr : receive s p = .panicked) :
    serve h s p st = ⟨.panicked, none, [], st⟩ := by
  rw [serve, hr]

/-- What serving a peer comes to, and when. -/
lemma serve_cases (h : Handler σ) (s : Settings) (p : Peer) (st : σ) :
    (receive s p = .panicked ∧ serve h s p st = ⟨.panicked, none, [], st⟩) ∨
      (∃ f, receive s p = .error f ∧ serve h s p st = ⟨.error f, none, [.ioError, .closed], st⟩) ∨
      (receive s p = .ok none ∧ serve h s p st = ⟨.ok (), none, [.closed], st⟩) ∨
      (∃ c f st', receive s p = .ok (some c) ∧ h.handle st c = (.error f, st') ∧
        serve h s p st =
          ⟨.error (handlerFailure f), none, [.dispatched, .handlerFailure, .closed], st'⟩) ∨
      (∃ c w st', receive s p = .ok (some c) ∧ h.handle st c = (.ok w, st') ∧
        serve h s p st =
          ⟨.ofExcept (respond s p w), some w, .dispatched :: reported (respond s p w) ++ [.closed],
            st'⟩) := by
  rcases hr : receive s p with f | ⟨_ | c⟩ | _
  · exact .inr (.inl ⟨f, rfl, serve_of_error hr⟩)
  · exact .inr (.inr (.inl ⟨rfl, serve_of_none hr⟩))
  · rcases ha : h.handle st c with ⟨f | w, st'⟩
    · exact .inr (.inr (.inr (.inl ⟨c, f, st', rfl, ha, serve_of_failed hr ha⟩)))
    · exact .inr (.inr (.inr (.inr ⟨c, w, st', rfl, ha, serve_of_answered hr ha⟩)))
  · exact .inl ⟨rfl, serve_of_panicked hr⟩

end

/-! ### The way to the outcome -/

/-- What a connection has done when it stands at a stage, on its way to an outcome of serving its
peer. -/
inductive Sound (h : Handler σ) (s : Settings) (p : Peer) :
    Stage → Option Bytes → List Entry → Prop where
  | reading : Sound h s p .reading none []
  | dispatching {c : Command} (hc : receive s p = .ok (some c)) :
    Sound h s p (.dispatching c) none []
  | handling {c : Command} (hc : receive s p = .ok (some c)) :
    Sound h s p (.handling c) none [.dispatched]
  | failing {c : Command} {st st' : σ} {f : Failure} (hc : receive s p = .ok (some c))
    (hf : h.handle st c = (.error f, st')) :
    Sound h s p (.failing f) none [.dispatched]
  | responding {c : Command} {st st' : σ} {w : Bytes} (hc : receive s p = .ok (some c))
    (hw : h.handle st c = (.ok w, st')) :
    Sound h s p (.responding w) none [.dispatched]
  | served {st : σ} {o : Outcome σ} {r : Except Failure Unit} {es : List Entry}
    (ho : serve h s p st = o) (hr : o.result = .ofExcept r)
    (hes : o.entries = es ++ reported r ++ [.closed]) :
    Sound h s p (.served r) o.response es
  | closing {st : σ} {o : Outcome σ} {r : Except Failure Unit} {es : List Entry}
    (ho : serve h s p st = o) (hr : o.result = .ofExcept r) (hes : o.entries = es ++ [.closed]) :
    Sound h s p (.closing r) o.response es
  | closed {st : σ} {o : Outcome σ} {r : Except Failure Unit} (ho : serve h s p st = o)
    (hr : o.result = .ofExcept r) :
    Sound h s p (.closed r) o.response o.entries
  | panicked (hr : receive s p = .panicked) : Sound h s p .panicked none []

variable {h : Handler σ} {x : Stage} {w : Option Bytes} {es : List Entry}

/-- **One step** of a connection, whatever has become of the handler's state. -/
theorem Sound.next (hx : Sound h s p x w es) (st : σ) :
    Sound h s p (x.next h s p st).1 (x.written.or w) (es ++ (x.next h s p st).2.1) := by
  cases hx with
  | reading =>
    rcases hr : receive s p with f | ⟨_ | c⟩ | _
    · have hes : reported (.error f) = [.ioError] := reported_of_ne (kind_of_receive hr)
      have ho : serve h s p st = ⟨.error f, none, [.ioError, .closed], st⟩ := serve_of_error hr
      simp only [Stage.next, hr]
      exact .served ho rfl (by rw [hes]; rfl)
    · have ho : serve h s p st = ⟨.ok (), none, [.closed], st⟩ := serve_of_none hr
      simp only [Stage.next, hr]
      exact .served ho rfl rfl
    · simp only [Stage.next, hr]
      exact .dispatching hr
    · simp only [Stage.next, hr]
      exact .panicked hr
  | dispatching hc => exact .handling hc
  | @handling c hc =>
    rcases ha : h.handle st c with ⟨f | w, st'⟩
    · simp only [Stage.next, ha]
      exact .failing hc ha
    · simp only [Stage.next, ha]
      exact .responding hc ha
  | @failing c st₀ st₁ f hc hf =>
    refine .served (serve_of_failed hc hf) rfl ?_
    have hes : reported (.error (handlerFailure f)) = [] := if_pos (kind_handlerFailure f)
    rw [hes]
    rfl
  | responding hc hw => exact .served (serve_of_answered hc hw) rfl rfl
  | served ho hr hes => exact .closing ho hr hes
  | closing ho hr hes =>
    have hclosed := Sound.closed ho hr
    rwa [hes] at hclosed
  | closed ho hr =>
    rw [Stage.next, List.append_nil]
    exact .closed ho hr
  | panicked hr => exact .panicked hr

/-- A connection that has closed has come to an outcome of serving its peer. -/
theorem Sound.outcome {r : Except Failure Unit} (hx : Sound h s p (.closed r) w es) :
    ∃ st, (serve h s p st).result = .ofExcept r ∧ (serve h s p st).response = w ∧
      (serve h s p st).entries = es := by
  cases hx with
  | closed ho hr => exact ⟨_, (congrArg _ ho).trans hr, congrArg _ ho, congrArg _ ho⟩

/-- A command that has been read is dispatched before anything else is entered. -/
lemma begins_dispatched {c : Command} (hc : receive s p = .ok (some c)) (st : σ) :
    [.dispatched] <+: (serve h s p st).entries := by
  rcases ha : h.handle st c with ⟨f | w, st'⟩
  · rw [serve_of_failed hc ha]
    exact List.prefix_append [_] _
  · rw [serve_of_answered hc ha]
    exact List.prefix_append [_] _

/-- At any time its entries are the first ones of an outcome, and what it has handed over for
writing is the response of that outcome. -/
lemma Sound.begins (hx : Sound h s p x w es) (st : σ) :
    ∃ st, es <+: (serve h s p st).entries ∧ (w = none ∨ w = (serve h s p st).response) := by
  cases hx with
  | reading | dispatching | panicked => exact ⟨st, List.nil_prefix, .inl rfl⟩
  | handling hc | failing hc | responding hc => exact ⟨st, begins_dispatched hc st, .inl rfl⟩
  | @served st₀ o r es ho hr hes =>
    refine ⟨st₀, ?_, .inr (by rw [ho])⟩
    rw [ho, hes, List.append_assoc]
    exact List.prefix_append _ _
  | @closing st₀ o r es ho hr hes =>
    refine ⟨st₀, ?_, .inr (by rw [ho])⟩
    rw [ho, hes]
    exact List.prefix_append _ _
  | @closed st₀ o r ho hr =>
    subst ho
    exact ⟨st₀, List.prefix_rfl, .inr rfl⟩

end LinkCourier.Connection
