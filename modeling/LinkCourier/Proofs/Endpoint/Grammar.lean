import Mathlib.Data.List.TakeDrop
import LinkCourier.Failure
import LinkCourier.Proofs.Text.Blank
import LinkCourier.Proofs.Text.Decimal

/-!
What is read as an endpoint, and why other texts are refused. The port stands behind the last
colon and the host in front of it, in one pair of brackets or not. Other colons and brackets belong
to the host, whatever there is in it, and a number that is too large is never cut down to a port.
-/

namespace LinkCourier.Endpoint

/-- One digit or more, behind a plus sign or not. -/
def Numeral (t : Text) (n : ℕ) : Prop :=
  ∃ ds, (t = ds ∨ t = '+' :: ds) ∧ Decimal.IsDigits ds ∧ Decimal.value ds = n

/-- A number from 1 to 65535. -/
def SpellsPort (t : Text) (port : UInt16) : Prop :=
  ∃ n, Numeral t n ∧ 1 ≤ n ∧ n ≤ 65535 ∧ port.toNat = n

/-- The host that a text stands for: what one pair of brackets encloses, and otherwise the text. -/
inductive SpellsHost : Text → Text → Prop
  | enclosed (host : Text) : SpellsHost ('[' :: (host ++ [']'])) host
  | bare {t : Text} (h : ∀ host, t ≠ '[' :: (host ++ [']'])) : SpellsHost t t

/-- The text is cut at its last colon. -/
structure Parts (t host port : Text) : Prop where
  eq : t = host ++ ':' :: port
  last : ':' ∉ port

/-- A host that is not blank and a port. -/
def Spells (t : Text) (e : Endpoint) : Prop :=
  ∃ host port, Parts t host port ∧ SpellsPort port e.port ∧ SpellsHost host e.host ∧
    Text.trim e.host ≠ []

/-- Why a text is no endpoint. Numbers that are too large for a port are told as they are, up to
the width in which they are read. -/
inductive Refuses (t : Text) : Fault → Prop
  | noPort (h : ':' ∉ t) : Refuses t (.noPort t)
  | badPort {host port : Text} (ht : Parts t host port)
      (hport : ∀ n < UInt32.size, ¬ Numeral port n) : Refuses t (.badPort t)
  | portTooLarge {host port : Text} {n : ℕ} (ht : Parts t host port) (hport : Numeral port n)
      (hlarge : 65535 < n) (hn : n < UInt32.size) : Refuses t (.portTooLarge n)
  | blankHost {host port h : Text} {n : ℕ} (ht : Parts t host port) (hport : Numeral port n)
      (hn : n ≤ 65535) (hhost : SpellsHost host h) (hblank : Text.trim h = []) :
      Refuses t .blankHost
  | zeroPort {host port h : Text} (ht : Parts t host port) (hport : Numeral port 0)
      (hhost : SpellsHost host h) (hblank : Text.trim h ≠ []) : Refuses t .zeroPort

variable {t host port : Text} {n : ℕ} {e : Endpoint} {f : Fault}

/-! ### Brackets -/

lemma unbracket_enclosed (host : Text) : unbracket ('[' :: (host ++ [']'])) = host := by
  simp [unbracket]

lemma unbracket_bare (h : ∀ host, t ≠ '[' :: (host ++ [']'])) : unbracket t = t := by
  unfold unbracket
  split
  · rename_i r
    refine if_neg fun hlast => ?_
    obtain ⟨host, rfl⟩ := List.getLast?_eq_some_iff.1 hlast
    exact h host rfl
  · rfl

lemma spellsHost_unbracket (t : Text) : SpellsHost t (unbracket t) := by
  by_cases h : ∃ host, t = '[' :: (host ++ [']'])
  · obtain ⟨host, rfl⟩ := h
    rw [unbracket_enclosed]
    exact .enclosed host
  · have hbare : ∀ host, t ≠ '[' :: (host ++ [']']) := not_exists.1 h
    rw [unbracket_bare hbare]
    exact .bare hbare

/-- A text stands for one host only. -/
lemma spellsHost_iff : SpellsHost t host ↔ host = unbracket t := by
  constructor
  · rintro (_ | h)
    · exact (unbracket_enclosed host).symm
    · exact (unbracket_bare h).symm
  · rintro rfl
    exact spellsHost_unbracket t

/-! ### The last colon -/

/-- A text without a colon is passed to its front. -/
lemma ne_colon_of_notMem (h : ':' ∉ t) : ∀ c ∈ t.reverse, (c != ':') = true := by
  intro c hc
  rw [bne_iff_ne]
  rintro rfl
  exact h (List.mem_reverse.1 hc)

lemma cut?_append (h : ':' ∉ port) (host : Text) : cut? (host ++ ':' :: port) = some (host, port) := by
  have hback : (host ++ ':' :: port).reverse = port.reverse ++ ':' :: host.reverse := by simp
  rw [cut?, hback, List.span_eq_takeWhile_dropWhile,
    List.takeWhile_append_of_pos (ne_colon_of_notMem h),
    List.dropWhile_append_of_pos (ne_colon_of_notMem h)]
  simp

lemma cut?_of_notMem (h : ':' ∉ t) : cut? t = none := by
  rw [cut?, List.span_eq_takeWhile_dropWhile, List.dropWhile_eq_nil_iff.2 (ne_colon_of_notMem h)]

lemma exists_last_colon (h : ':' ∈ t) : ∃ host port, t = host ++ ':' :: port ∧ ':' ∉ port := by
  obtain ⟨back, front, ht, hback⟩ := List.eq_append_cons_of_mem (List.mem_reverse.2 h)
  refine ⟨front.reverse, back.reverse, ?_, by simpa using hback⟩
  rw [← List.reverse_reverse t, ht]
  simp

/-- **The cut is at the last colon**, if there is one. -/
lemma cut?_eq_some_iff : cut? t = some (host, port) ↔ Parts t host port := by
  constructor
  · intro h
    by_cases hcolon : ':' ∈ t
    · obtain ⟨front, back, rfl, hback⟩ := exists_last_colon hcolon
      rw [cut?_append hback, Option.some.injEq, Prod.mk.injEq] at h
      obtain ⟨rfl, rfl⟩ := h
      exact ⟨rfl, hback⟩
    · rw [cut?_of_notMem hcolon] at h
      cases h
  · rintro ⟨rfl, hport⟩
    exact cut?_append hport host

lemma notMem_of_cut?_eq_none (h : cut? t = none) : ':' ∉ t := by
  intro hcolon
  obtain ⟨host, port, rfl, hport⟩ := exists_last_colon hcolon
  rw [cut?_append hport] at h
  cases h

/-! ### Hosts and ports -/

lemma fault?_eq_none_iff : e.fault? = none ↔ Text.trim e.host ≠ [] ∧ e.port ≠ 0 := by
  rw [ne_eq, Text.trim_eq_nil_iff, fault?]
  split
  · simp [*]
  · split <;> simp [*]

/-- An endpoint is made of its host and its port, if nothing keeps it from being used. -/
lemma make_eq_ok_iff {p : UInt16} : make host p = .ok e ↔ e = ⟨host, p⟩ ∧ e.fault? = none := by
  rw [make]
  split
  · rename_i f hf
    simp only [reduceCtorEq, false_iff, not_and]
    rintro rfl
    simp [hf]
  · rename_i hf
    rw [Except.ok.injEq]
    constructor
    · rintro rfl
      exact ⟨rfl, hf⟩
    · rintro ⟨rfl, -⟩
      rfl

/-- A port that is too large is refused, and any other keeps its value. -/
lemma ofNumber_eq_ok_iff :
    ofNumber host n = .ok e ↔ e.host = host ∧ e.port.toNat = n ∧ e.fault? = none := by
  obtain ⟨h, p⟩ := e
  rw [ofNumber]
  split
  · rename_i hn
    have hvalue : n.toUInt16 = p ↔ p.toNat = n := by
      rw [← UInt16.toNat_inj, Nat.toUInt16_eq, UInt16.toNat_ofNat', Nat.mod_eq_of_lt hn, eq_comm]
    rw [make_eq_ok_iff, mk.injEq, ← hvalue, and_assoc, eq_comm (a := p)]
  · rename_i hn
    have hp : p.toNat < 65536 := p.toNat_lt
    simp only [reduceCtorEq, false_iff]
    rintro ⟨-, rfl, -⟩
    exact hn hp

/-- What keeps an endpoint from being used is its host or its port, the host first. -/
lemma fault?_eq_some (h : e.fault? = some f) :
    f = .blankHost ∧ Text.trim e.host = [] ∨ f = .zeroPort ∧ Text.trim e.host ≠ [] ∧ e.port = 0 := by
  rw [ne_eq, Text.trim_eq_nil_iff]
  rw [fault?] at h
  split at h
  · rename_i hblank
    exact .inl ⟨(Option.some.inj h).symm, hblank⟩
  · rename_i hblank
    split at h
    · rename_i hport
      exact .inr ⟨(Option.some.inj h).symm, hblank, hport⟩
    · cases h

/-- Numbers are read up to the width. -/
lemma readBelow_iff : Decimal.readBelow UInt32.size t = some n ↔ Numeral t n ∧ n < UInt32.size := by
  rw [Decimal.readBelow_eq_some_iff, Numeral]
  simp only [← and_assoc, exists_and_right]

lemma spellsPort_iff {p : UInt16} : SpellsPort t p ↔ Numeral t p.toNat ∧ p ≠ 0 := by
  have hp : p.toNat < 65536 := p.toNat_lt
  have hzero : p ≠ 0 ↔ 1 ≤ p.toNat := by
    rw [ne_eq, ← UInt16.toNat_inj, UInt16.toNat_zero]
    omega
  rw [hzero]
  constructor
  · rintro ⟨n, hn, hpos, -, rfl⟩
    exact ⟨hn, hpos⟩
  · rintro ⟨hn, hpos⟩
    exact ⟨p.toNat, hn, hpos, by omega, rfl⟩

/-! ### Endpoints -/

lemma ofText_eq_ok_iff : ofText t = .ok e ↔ Spells t e := by
  have hcut : ofText t = .ok e ↔ ∃ host port n, cut? t = some (host, port) ∧
      Decimal.readBelow UInt32.size port = some n ∧ ofNumber (unbracket host) n = .ok e := by
    rw [ofText]
    rcases cut? t with _ | ⟨host, port⟩
    · simp
    · rcases hport : Decimal.readBelow UInt32.size port with _ | n <;> simp [hport]
  rw [hcut]
  constructor
  · rintro ⟨host, port, n, hc, hn, he⟩
    obtain ⟨hhost, rfl, hvalid⟩ := ofNumber_eq_ok_iff.1 he
    obtain ⟨hblank, hzero⟩ := fault?_eq_none_iff.1 hvalid
    exact ⟨host, port, cut?_eq_some_iff.1 hc, spellsPort_iff.2 ⟨(readBelow_iff.1 hn).1, hzero⟩,
      spellsHost_iff.2 hhost, hblank⟩
  · rintro ⟨host, port, ht, hp, hhost, hblank⟩
    obtain ⟨hn, hzero⟩ := spellsPort_iff.1 hp
    have hwidth : e.port.toNat < UInt32.size := Nat.lt_trans e.port.toNat_lt (by decide)
    refine ⟨host, port, e.port.toNat, cut?_eq_some_iff.2 ht, readBelow_iff.2 ⟨hn, hwidth⟩, ?_⟩
    exact ofNumber_eq_ok_iff.2 ⟨spellsHost_iff.1 hhost, rfl, fault?_eq_none_iff.2 ⟨hblank, hzero⟩⟩

lemma Spells.fault?_eq_none (h : Spells t e) : e.fault? = none := by
  obtain ⟨_, _, _, hport, _, hblank⟩ := h
  exact fault?_eq_none_iff.2 ⟨hblank, (spellsPort_iff.1 hport).2⟩

/-- A number that has been read is refused as a port, or the host or the port cannot be used. -/
lemma refuses_of_ofNumber (ht : Parts t host port) (hn : Numeral port n) (hwidth : n < UInt32.size)
    (h : ofNumber (unbracket host) n = .error f) : Refuses t f := by
  rw [ofNumber] at h
  split at h
  · rename_i hlt
    have hzero (hport : n.toUInt16 = 0) : n = 0 := by
      rwa [← UInt16.toNat_inj, Nat.toUInt16_eq, UInt16.toNat_ofNat', Nat.mod_eq_of_lt hlt] at hport
    rw [make] at h
    split at h
    · rename_i g hg
      obtain rfl : g = f := Except.error.inj h
      rcases fault?_eq_some hg with ⟨rfl, hblank⟩ | ⟨rfl, hblank, hport⟩
      · exact .blankHost ht hn (Nat.le_of_lt_succ hlt) (spellsHost_unbracket host) hblank
      · exact .zeroPort ht (hzero hport ▸ hn) (spellsHost_unbracket host) hblank
    · cases h
  · rename_i hlarge
    obtain rfl : Fault.portTooLarge n = f := Except.error.inj h
    exact .portTooLarge ht hn (Nat.not_lt.1 hlarge) hwidth

lemma refuses_of_ofText (h : ofText t = .error f) : Refuses t f := by
  rw [ofText] at h
  rcases hc : cut? t with _ | ⟨host, port⟩
  · rw [hc] at h
    obtain rfl : Fault.noPort t = f := Except.error.inj h
    exact .noPort (notMem_of_cut?_eq_none hc)
  · have ht : Parts t host port := cut?_eq_some_iff.1 hc
    rcases hport : Decimal.readBelow UInt32.size port with _ | n
    · simp only [hc, hport] at h
      obtain rfl : Fault.badPort t = f := Except.error.inj h
      refine .badPort ht fun n hwidth hn => ?_
      rw [readBelow_iff.2 ⟨hn, hwidth⟩] at hport
      cases hport
    · simp only [hc, hport] at h
      obtain ⟨hn, hwidth⟩ := readBelow_iff.1 hport
      exact refuses_of_ofNumber ht hn hwidth h

/-- **What is read as an endpoint.** A text is read as the endpoint that it spells. A text that
spells none is refused for a reason that applies to it, and the refusal is reported as one of the
settings. Whatever is read can be used. -/
theorem endpoint_grammar (t : Text) :
    (∀ e, ofText t = .ok e ↔ Spells t e) ∧
      ((∀ e, ¬ Spells t e) → ∃ f, ofText t = .error f ∧ Refuses t f ∧
        (Failure.settings (.endpoint f)).kind.name = "Config") ∧
      ∀ e, ofText t = .ok e → e.fault? = none := by
  refine ⟨fun e => ofText_eq_ok_iff, fun h => ?_, fun e he => (ofText_eq_ok_iff.1 he).fault?_eq_none⟩
  rcases ht : ofText t with f | e
  · exact ⟨f, rfl, refuses_of_ofText ht, rfl⟩
  · exact absurd (ofText_eq_ok_iff.1 ht) (h e)

/-- One pair of brackets is taken away, and zeros in front of a port do not count. -/
example : ofText "[[::1]]:+00080".toList = .ok ⟨"[::1]".toList, 80⟩ := by decide

end LinkCourier.Endpoint
