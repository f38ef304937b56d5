import Mathlib.Data.List.Basic
import LinkCourier.Proofs.Endpoint.Grammar

/-!
Endpoints that are written and read again. A host with a colon in it is put into brackets, but
every host that stands in brackets is taken out of them: a host that has brackets of its own and
no colon is written as it is, and another host is read. What is written tells the endpoint all the
same.
-/

namespace LinkCourier.Endpoint

variable {e e' : Endpoint} {host : Text}

/-- A host as it is written in front of the port. -/
def writtenHost (host : Text) : Text := if ':' ∈ host then '[' :: (host ++ [']']) else host

/-- The host has brackets of its own and no colon. -/
def OwnBrackets (host : Text) : Prop := ':' ∉ host ∧ ∃ t, host = '[' :: (t ++ [']'])

lemma colon_notMem_digits (n : ℕ) : ':' ∉ Decimal.digits n := Decimal.notMem_digits rfl n

lemma text_eq (e : Endpoint) : e.text = writtenHost e.host ++ ':' :: Decimal.digits e.port.toNat := by
  unfold text writtenHost
  split <;> simp

/-- The brackets that are written are taken away again, and those of a host with a colon stay. -/
lemma unbracket_writtenHost_iff : unbracket (writtenHost host) = host ↔ ¬ OwnBrackets host := by
  unfold writtenHost OwnBrackets
  split
  · rename_i hcolon
    rw [unbracket_enclosed]
    simp [hcolon]
  · rename_i hcolon
    simp only [hcolon, not_false_eq_true, true_and]
    constructor
    · rintro h ⟨t, rfl⟩
      rw [unbracket_enclosed] at h
      -- A text is shorter than itself in brackets.
      have hlength := congrArg List.length h
      simp only [List.length_cons, List.length_append, List.length_nil] at hlength
      omega
    · intro h
      exact unbracket_bare fun t ht => h ⟨t, ht⟩

/-- What is written is read with its own port, and with the host that is left without brackets. -/
lemma ofText_text (e : Endpoint) : ofText e.text = make (unbracket (writtenHost e.host)) e.port := by
  have hport : e.port.toNat < 65536 := e.port.toNat_lt
  have hsize : UInt32.size = 4294967296 := rfl
  have hread : Decimal.readBelow UInt32.size (Decimal.digits e.port.toNat) = some e.port.toNat :=
    Decimal.readBelow_digits (by omega)
  have hcut := cut?_append (colon_notMem_digits e.port.toNat) (writtenHost e.host)
  rw [ofText, text_eq, hcut]
  simp only [hread]
  rw [ofNumber, if_pos hport, Nat.toUInt16_eq, UInt16.ofNat_toNat]

lemma writtenHost_injective (h : writtenHost e.host = writtenHost e'.host) : e.host = e'.host := by
  unfold writtenHost at h
  split at h <;> split at h
  · simpa using h
  · rename_i hcolon hno
    exact absurd (h ▸ by simp [hcolon]) hno
  · rename_i hno hcolon
    exact absurd (h ▸ by simp [hcolon]) hno
  · exact h

/-- Both cuts are at the last colon. -/
lemma text_injective (h : e.text = e'.text) : e = e' := by
  have hcut := cut?_append (colon_notMem_digits e.port.toNat) (writtenHost e.host)
  rw [← text_eq, h, text_eq, cut?_append (colon_notMem_digits e'.port.toNat), Option.some.injEq,
    Prod.mk.injEq] at hcut
  obtain ⟨hhost, hport⟩ := hcut
  have hvalue := congrArg Decimal.value hport
  rw [Decimal.value_digits, Decimal.value_digits, UInt16.toNat_inj] at hvalue
  obtain ⟨host, port⟩ := e
  rw [mk.injEq]
  exact ⟨writtenHost_injective hhost.symm, hvalue.symm⟩

/-- **Which endpoints are read back as they are written**: those that can be used, but for hosts
with brackets of their own and no colon. No two endpoints are written alike. -/
theorem written_read_iff (e : Endpoint) :
    (ofText e.text = .ok e ↔ make e.host e.port = .ok e ∧ ¬ OwnBrackets e.host) ∧
      ∀ e', e'.text = e.text → e' = e := by
  refine ⟨?_, fun e' h => text_injective h⟩
  rw [ofText_text, make_eq_ok_iff, make_eq_ok_iff, ← unbracket_writtenHost_iff]
  obtain ⟨host, port⟩ := e
  simp only [mk.injEq, and_true, true_and, eq_comm (a := host)]
  exact and_comm

/-- Hosts that are accepted: one is read without its brackets, and of the other nothing is left. -/
theorem own_brackets_misread :
    let e : Endpoint := ⟨"[a]".toList, 80⟩
    let e' : Endpoint := ⟨"[]".toList, 80⟩
    (make e.host e.port = .ok e ∧ e.text = "[a]:80".toList ∧ ofText e.text = .ok ⟨['a'], 80⟩) ∧
      (make e'.host e'.port = .ok e' ∧ ofText e'.text = .error .blankHost) ∧
      ¬ ∀ e : Endpoint, make e.host e.port = .ok e → ofText e.text = .ok e := by
  intro e e'
  have he : make e.host e.port = .ok e := by decide
  refine ⟨⟨he, by decide, by decide⟩, ⟨by decide, by decide⟩, fun h => ?_⟩
  exact absurd (h e he) (by decide)

end LinkCourier.Endpoint
