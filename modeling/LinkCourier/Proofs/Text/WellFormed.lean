import Mathlib.Tactic.Common
import LinkCourier.Proofs.Text.Utf8

/-!
Bytes that can be read are the bytes of a text: a scan that has found nothing but characters
has found them byte by byte as they are written. With `decode_encode` it follows that exactly
the texts are read.
-/

namespace LinkCourier.Utf8

/-! ### The bytes of one character -/

lemma toNat_ofNat_of_valid {v : ℕ} (h : v < 0xD800 ∨ 0xDFFF < v ∧ v < 0x110000) :
    (Char.ofNat v).val.toNat = v := by
  have hv : v.isValidChar := h
  rw [Char.ofNat, dif_pos hv]
  rfl

lemma exists_char_one {b : UInt8} (hb : b.toNat < 0x80) :
    ∃ x, String.utf8EncodeChar x = [b] := by
  refine ⟨Char.ofNat b.toNat, ?_⟩
  unfold String.utf8EncodeChar
  simp only [toNat_ofNat_of_valid (v := b.toNat) (by omega)]
  rw [if_pos (by omega), UInt8.ofNat_toNat]

lemma exists_char_two {b c : UInt8} (hb : 0xC2 ≤ b.toNat) (hb' : b.toNat < 0xE0)
    (hc : 0x80 ≤ c.toNat) (hc' : c.toNat ≤ 0xBF) : ∃ x, String.utf8EncodeChar x = [b, c] := by
  obtain ⟨v, hv⟩ : ∃ v, v = 64 * (b.toNat - 0xC0) + (c.toNat - 0x80) := ⟨_, rfl⟩
  refine ⟨Char.ofNat v, ?_⟩
  unfold String.utf8EncodeChar
  simp only [toNat_ofNat_of_valid (v := v) (by omega)]
  rw [if_neg (by omega), if_pos (by omega)]
  have h1 : v / 64 % 32 + 0xC0 = b.toNat := by omega
  have h2 : v % 64 + 0x80 = c.toNat := by omega
  rw [h1, h2, UInt8.ofNat_toNat, UInt8.ofNat_toNat]

/-- The second byte keeps the value above two bytes and out of the surrogates. -/
lemma exists_char_three {b c d : UInt8} (hb : 0xE0 ≤ b.toNat) (hb' : b.toNat < 0xF0)
    (hc : 0x80 ≤ c.toNat) (hc' : c.toNat ≤ 0xBF) (hd : 0x80 ≤ d.toNat) (hd' : d.toNat ≤ 0xBF)
    (hlo : b.toNat = 0xE0 → 0xA0 ≤ c.toNat) (hhi : b.toNat = 0xED → c.toNat ≤ 0x9F) :
    ∃ x, String.utf8EncodeChar x = [b, c, d] := by
  obtain ⟨v, hv⟩ : ∃ v, v = 64 * (64 * (b.toNat - 0xE0) + (c.toNat - 0x80)) + (d.toNat - 0x80) :=
    ⟨_, rfl⟩
  refine ⟨Char.ofNat v, ?_⟩
  unfold String.utf8EncodeChar
  simp only [toNat_ofNat_of_valid (v := v) (by omega)]
  rw [if_neg (by omega), if_neg (by omega), if_pos (by omega)]
  have h1 : v / 4096 % 16 + 0xE0 = b.toNat := by omega
  have h2 : v / 64 % 64 + 0x80 = c.toNat := by omega
  have h3 : v % 64 + 0x80 = d.toNat := by omega
  rw [h1, h2, h3, UInt8.ofNat_toNat, UInt8.ofNat_toNat, UInt8.ofNat_toNat]

/-- The second byte keeps the value above three bytes and below the last character. -/
lemma exists_char_four {b c d e : UInt8} (hb : 0xF0 ≤ b.toNat) (hb' : b.toNat < 0xF5)
    (hc : 0x80 ≤ c.toNat) (hc' : c.toNat ≤ 0xBF) (hd : 0x80 ≤ d.toNat) (hd' : d.toNat ≤ 0xBF)
    (he : 0x80 ≤ e.toNat) (he' : e.toNat ≤ 0xBF)
    (hlo : b.toNat = 0xF0 → 0x90 ≤ c.toNat) (hhi : b.toNat = 0xF4 → c.toNat ≤ 0x8F) :
    ∃ x, String.utf8EncodeChar x = [b, c, d, e] := by
  obtain ⟨v, hv⟩ : ∃ v, v = 64 * (64 * (64 * (b.toNat - 0xF0) + (c.toNat - 0x80)) +
    (d.toNat - 0x80)) + (e.toNat - 0x80) := ⟨_, rfl⟩
  refine ⟨Char.ofNat v, ?_⟩
  unfold String.utf8EncodeChar
  simp only [toNat_ofNat_of_valid (v := v) (by omega)]
  rw [if_neg (by omega), if_neg (by omega), if_neg (by omega)]
  have h1 : v / 262144 % 8 + 0xF0 = b.toNat := by omega
  have h2 : v / 4096 % 64 + 0x80 = c.toNat := by omega
  have h3 : v / 64 % 64 + 0x80 = d.toNat := by omega
  have h4 : v % 64 + 0x80 = e.toNat := by omega
  rw [h1, h2, h3, h4, UInt8.ofNat_toNat, UInt8.ofNat_toNat, UInt8.ofNat_toNat, UInt8.ofNat_toNat]

/-- What a first byte asks for, by the number of bytes of its character. -/
inductive Leads (b : ℕ) (p : Part) : Prop where
  | two (hlo : 0xC2 ≤ b) (hhi : b < 0xE0) (h : p.lo = 0x80 ∧ p.hi = 0xBF) (due : p.due = 1)
  | three (hlo : 0xE0 ≤ b) (hhi : b < 0xF0) (h : 0x80 ≤ p.lo ∧ p.hi ≤ 0xBF) (due : p.due = 2)
    (h0 : b = 0xE0 → 0xA0 ≤ p.lo) (hD : b = 0xED → p.hi ≤ 0x9F)
  | four (hlo : 0xF0 ≤ b) (hhi : b < 0xF5) (h : 0x80 ≤ p.lo ∧ p.hi ≤ 0xBF) (due : p.due = 3)
    (h0 : b = 0xF0 → 0x90 ≤ p.lo) (h4 : b = 0xF4 → p.hi ≤ 0x8F)

lemma leads_of_lead {b : ℕ} {p : Part} (h : lead b = some p) : Leads b p := by
  unfold lead at h
  split_ifs at h with h1 h2 h3 h4 h5 h6 h7 h8 <;> cases Option.some.inj h
  · exact .two (by omega) h2 ⟨rfl, rfl⟩ rfl
  · exact .three (by omega) (by omega) (by simp) rfl (fun _ => Nat.le_refl _) (by omega)
  · exact .three (by omega) (by omega) (by simp) rfl (by omega) (fun _ => Nat.le_refl _)
  · exact .three (by omega) (by omega) (by simp) rfl (by omega) (by omega)
  · exact .four (by omega) (by omega) (by simp) rfl (fun _ => Nat.le_refl _) (by omega)
  · exact .four (by omega) (by omega) (by simp) rfl (by omega) (by omega)
  · exact .four (by omega) (by omega) (by simp) rfl (by omega) (fun _ => Nat.le_refl _)

/-! ### A scan that finds nothing else -/

/-- Nothing but characters has been read so far. -/
def St.Clean (s : St) : Prop := ∀ i ∈ s.items, ∃ c, i = .char c

/-- The scan of `w` ends between two characters, and has found nothing but characters. -/
def Reads (s : St) (w : Bytes) : Prop := (run s w).part = none ∧ (run s w).Clean

variable {its : List Item} {w : Bytes} {p : Part}

lemma fault?_eq_none_iff {index : ℕ} :
    fault? index its = none ↔ ∀ i ∈ its, ∃ c, i = .char c := by
  induction its generalizing index with
  | nil => simp [fault?]
  | cons i its ih => cases i <;> simp [fault?, ih]

lemma items_start_suffix (its : List Item) (b : ℕ) : its <:+ (start its b).items := by
  unfold start
  split
  · exact List.suffix_cons _ _
  · split
    · exact List.suffix_refl _
    · exact List.suffix_cons _ _

lemma items_step_suffix (s : St) (b : UInt8) : s.items <:+ (step s b).items := by
  unfold step
  simp only
  split
  · exact items_start_suffix _ _
  · split
    · split
      · exact List.suffix_cons _ _
      · exact List.suffix_refl _
    · exact (List.suffix_cons _ _).trans (items_start_suffix _ _)

/-- What has been read stays read. -/
lemma items_run_suffix (s : St) (w : Bytes) : s.items <:+ (run s w).items := by
  induction w generalizing s with
  | nil => exact List.suffix_refl _
  | cons b w ih => exact (items_step_suffix s b).trans (ih _)

lemma Reads.clean {s : St} (h : Reads s w) : s.Clean :=
  fun i hi => h.2 i ((items_run_suffix s w).subset hi)

/-- Inside a character, a byte that continues it comes next. -/
lemma Reads.exists_next (h : Reads ⟨its, some p⟩ w) :
    ∃ b r, w = b :: r ∧ (p.lo ≤ b.toNat ∧ b.toNat ≤ p.hi) ∧ Reads (step ⟨its, some p⟩ b) r := by
  rcases w with _ | ⟨b, r⟩
  · simp [Reads] at h
  by_cases hb : p.lo ≤ b.toNat ∧ b.toNat ≤ p.hi
  · exact ⟨b, r, rfl, hb, h⟩
  · have hstep : step ⟨its, some p⟩ b = start (.bad p.seen :: its) b.toNat := if_neg hb
    have hread : Reads (step ⟨its, some p⟩ b) r := h
    rw [hstep] at hread
    obtain ⟨c, hc⟩ := hread.clean (.bad p.seen) ((items_start_suffix _ _).subset (by simp))
    exact Item.noConfusion hc

/-- Inside a character, the next byte where it is not the last one. -/
lemma Reads.exists_more {n : ℕ} (h : Reads ⟨its, some p⟩ w) (hdue : p.due = n + 2) :
    ∃ b r q, w = b :: r ∧ (p.lo ≤ b.toNat ∧ b.toNat ≤ p.hi) ∧
      (q.lo = 0x80 ∧ q.hi = 0xBF ∧ q.due = n + 1) ∧ Reads ⟨its, some q⟩ r := by
  obtain ⟨b, r, rfl, hb, hread⟩ := h.exists_next
  have hmore : ¬ p.due ≤ 1 := by omega
  have hstep : step ⟨its, some p⟩ b =
      ⟨its, some ⟨p.seen + 1, p.due - 1, 0x80, 0xBF, 64 * p.val + (b.toNat - 0x80)⟩⟩ := by
    simp [step, hb, hmore]
  exact ⟨b, r, _, rfl, hb, ⟨rfl, rfl, by simp [hdue]⟩, hstep ▸ hread⟩

/-- Inside a character, its last byte. -/
lemma Reads.exists_last (h : Reads ⟨its, some p⟩ w) (hdue : p.due = 1) :
    ∃ b r its', w = b :: r ∧ (p.lo ≤ b.toNat ∧ b.toNat ≤ p.hi) ∧ Reads ⟨its', none⟩ r := by
  obtain ⟨b, r, rfl, hb, hread⟩ := h.exists_next
  have hstep : step ⟨its, some p⟩ b =
      ⟨.char (Char.ofNat (64 * p.val + (b.toNat - 0x80))) :: its, none⟩ := by
    simp [step, hb, hdue]
  exact ⟨b, r, _, rfl, hb, hstep ▸ hread⟩

/-- Between two characters, the bytes of a whole character come next. -/
lemma Reads.exists_char (h : Reads ⟨its, none⟩ w) (hne : w ≠ []) :
    ∃ c r its', w = String.utf8EncodeChar c ++ r ∧ Reads ⟨its', none⟩ r := by
  obtain ⟨b, r, rfl⟩ := List.exists_cons_of_ne_nil hne
  have hread : Reads (start its b.toNat) r := h
  by_cases hb : b.toNat < 0x80
  · rw [start_ascii hb] at hread
    obtain ⟨c, hc⟩ := exists_char_one hb
    exact ⟨c, r, _, by rw [hc]; rfl, hread⟩
  rcases hlead : lead b.toNat with _ | p
  · -- A byte that begins no character is an item of its own.
    have hstart : start its b.toNat = ⟨.bad 1 :: its, none⟩ := by simp [start, hb, hlead]
    rw [hstart] at hread
    obtain ⟨c, hc⟩ := hread.clean (.bad 1) (by simp)
    exact Item.noConfusion hc
  rw [start_lead (Nat.le_of_not_lt hb) hlead] at hread
  cases leads_of_lead hlead with
  | two hlo hhi hp due =>
    obtain ⟨b1, r1, its1, rfl, h1, hread1⟩ := hread.exists_last due
    obtain ⟨c, hc⟩ := exists_char_two (c := b1) hlo hhi (by omega) (by omega)
    exact ⟨c, r1, its1, by rw [hc]; rfl, hread1⟩
  | three hlo hhi hp due h0 hD =>
    obtain ⟨b1, r1, q, rfl, h1, ⟨hq, hq', due1⟩, hread1⟩ := hread.exists_more due
    obtain ⟨b2, r2, its2, rfl, h2, hread2⟩ := hread1.exists_last due1
    obtain ⟨c, hc⟩ := exists_char_three (c := b1) (d := b2) hlo hhi (by omega) (by omega)
      (by omega) (by omega) (by omega) (by omega)
    exact ⟨c, r2, its2, by rw [hc]; rfl, hread2⟩
  | four hlo hhi hp due h0 h4 =>
    obtain ⟨b1, r1, q1, rfl, h1, ⟨hq1, hq1', due1⟩, hread1⟩ := hread.exists_more due
    obtain ⟨b2, r2, q2, rfl, h2, ⟨hq2, hq2', due2⟩, hread2⟩ := hread1.exists_more due1
    obtain ⟨b3, r3, its3, rfl, h3, hread3⟩ := hread2.exists_last due2
    obtain ⟨c, hc⟩ := exists_char_four (c := b1) (d := b2) (e := b3) hlo hhi (by omega) (by omega)
      (by omega) (by omega) (by omega) (by omega) (by omega) (by omega)
    exact ⟨c, r3, its3, by rw [hc]; rfl, hread3⟩

/-- Character by character, the bytes are those of a text. -/
lemma Reads.exists_encode (h : Reads ⟨its, none⟩ w) : ∃ t, Text.encode t = w := by
  induction hn : w.length using Nat.strongRecOn generalizing its w with
  | ind n ih =>
    by_cases hne : w = []
    · exact ⟨[], hne.symm⟩
    · obtain ⟨c, r, its', rfl, hr⟩ := h.exists_char hne
      have hc : 0 < (String.utf8EncodeChar c).length := by
        rw [String.length_utf8EncodeChar]
        exact c.utf8Size_pos
      obtain ⟨t, rfl⟩ := ih r.length (by rw [← hn, List.length_append]; omega) hr rfl
      exact ⟨c :: t, Text.encode_cons c t⟩

lemma reads_of_decode {t : Text} (h : decode w = .ok t) : Reads init w := by
  have hfault : fault? 0 (items w) = none := by
    unfold decode at h
    split at h
    · exact absurd h (by simp)
    · assumption
  have hchars := fault?_eq_none_iff.1 hfault
  unfold items at hchars
  simp only at hchars
  rcases hpart : (run init w).part with _ | p
  · simp only [hpart, List.mem_reverse] at hchars
    exact ⟨hpart, hchars⟩
  · simp only [hpart] at hchars
    obtain ⟨c, hc⟩ := hchars (.cut p.seen) (by simp)
    exact Item.noConfusion hc

/-- **Exactly the texts are read**, each from its bytes. -/
theorem decode_eq_ok_iff {t : Text} : decode w = .ok t ↔ Text.encode t = w := by
  refine ⟨fun h => ?_, fun h => h ▸ decode_encode t⟩
  obtain ⟨s, rfl⟩ := (reads_of_decode h).exists_encode
  rw [decode_encode, Except.ok.injEq] at h
  rw [h]

/-- A text has no bytes but its own. -/
lemma encode_injective {s t : Text} (h : Text.encode s = Text.encode t) : s = t := by
  have hdecode := decode_encode s
  rw [h, decode_encode, Except.ok.injEq] at hdecode
  exact hdecode.symm

end LinkCourier.Utf8
