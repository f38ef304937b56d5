import Mathlib.Tactic.Common
import LinkCourier.Text.Utf8

/-!
A text is read back from its UTF-8 bytes, by cases on how many bytes a character has.
-/

namespace LinkCourier.Utf8

lemma start_ascii {its : List Item} {b : ℕ} (h : b < 0x80) :
    start its b = ⟨.char (Char.ofNat b) :: its, none⟩ := by
  simp [start, h]

lemma start_lead {its : List Item} {b : ℕ} {p : Part} (hb : 0x80 ≤ b) (h : lead b = some p) :
    start its b = ⟨its, some p⟩ := by
  simp [start, Nat.not_lt.2 hb, h]

lemma toNat_ofNat {n : ℕ} (h : n < 256) : (UInt8.ofNat n).toNat = n := by
  rw [UInt8.toNat_ofNat', Nat.mod_eq_of_lt h]

lemma step_none (its : List Item) {n : ℕ} (h : n < 256) :
    step ⟨its, none⟩ (UInt8.ofNat n) = start its n := by
  simp only [step, toNat_ofNat h]

/-- A byte that continues a character without completing it. -/
lemma step_more (its : List Item) {seen due lo hi val k : ℕ} (hk : k < 64)
    (hlo : lo ≤ k + 0x80) (hhi : k + 0x80 ≤ hi) :
    step ⟨its, some ⟨seen, due + 2, lo, hi, val⟩⟩ (UInt8.ofNat (k + 0x80)) =
      ⟨its, some ⟨seen + 1, due + 1, 0x80, 0xBF, 64 * val + k⟩⟩ := by
  have hn : (k + 0x80) % 256 = k + 0x80 := by omega
  simp [step, hn, hlo, hhi]

/-- The byte that completes a character. -/
lemma step_last (its : List Item) {seen lo hi val k : ℕ} (hk : k < 64)
    (hlo : lo ≤ k + 0x80) (hhi : k + 0x80 ≤ hi) :
    step ⟨its, some ⟨seen, 1, lo, hi, val⟩⟩ (UInt8.ofNat (k + 0x80)) =
      ⟨.char (Char.ofNat (64 * val + k)) :: its, none⟩ := by
  have hn : (k + 0x80) % 256 = k + 0x80 := by omega
  simp [step, hn, hlo, hhi]

lemma lead_two {v : ℕ} (h : 0x7F < v) (h' : v ≤ 0x7FF) :
    lead (v / 64 % 32 + 0xC0) = some ⟨1, 1, 0x80, 0xBF, v / 64⟩ := by
  have h1 : v / 64 % 32 = v / 64 := by omega
  have h2 : ¬ v / 64 + 0xC0 < 0xC2 := by omega
  have h3 : v / 64 + 0xC0 < 0xE0 := by omega
  simp [lead, h1, h2, h3]

lemma lead_three {v : ℕ} (h : 0x7FF < v) (h' : v ≤ 0xFFFF) (hs : v < 0xD800 ∨ 0xDFFF < v) :
    ∃ lo hi, lead (v / 4096 % 16 + 0xE0) = some ⟨1, 2, lo, hi, v / 4096⟩ ∧
      lo ≤ v / 64 % 64 + 0x80 ∧ v / 64 % 64 + 0x80 ≤ hi := by
  have hv : v / 4096 % 16 = v / 4096 := by omega
  rw [hv]
  unfold lead
  rw [if_neg (by omega), if_neg (by omega)]
  by_cases h0 : v / 4096 + 0xE0 = 0xE0
  · have : v / 4096 = 0 := by omega
    rw [if_pos h0, this]
    exact ⟨0xA0, 0xBF, rfl, by omega, by omega⟩
  rw [if_neg h0]
  by_cases hD : v / 4096 + 0xE0 = 0xED
  · have : v / 4096 = 0xD := by omega
    rw [if_pos hD, this]
    exact ⟨0x80, 0x9F, rfl, by omega, by omega⟩
  rw [if_neg hD, if_pos (by omega), Nat.add_sub_cancel]
  exact ⟨0x80, 0xBF, rfl, by omega, by omega⟩

lemma lead_four {v : ℕ} (h : 0xFFFF < v) (h' : v < 0x110000) :
    ∃ lo hi, lead (v / 262144 % 8 + 0xF0) = some ⟨1, 3, lo, hi, v / 262144⟩ ∧
      lo ≤ v / 4096 % 64 + 0x80 ∧ v / 4096 % 64 + 0x80 ≤ hi := by
  have hv : v / 262144 % 8 = v / 262144 := by omega
  rw [hv]
  unfold lead
  rw [if_neg (by omega), if_neg (by omega), if_neg (by omega), if_neg (by omega),
    if_neg (by omega)]
  by_cases h0 : v / 262144 + 0xF0 = 0xF0
  · have : v / 262144 = 0 := by omega
    rw [if_pos h0, this]
    exact ⟨0x90, 0xBF, rfl, by omega, by omega⟩
  rw [if_neg h0]
  by_cases h4 : v / 262144 + 0xF0 < 0xF4
  · rw [if_pos h4, Nat.add_sub_cancel]
    exact ⟨0x80, 0xBF, rfl, by omega, by omega⟩
  · have : v / 262144 = 4 := by omega
    rw [if_neg h4, if_pos (by omega), this]
    exact ⟨0x80, 0x8F, rfl, by omega, by omega⟩

/-- Between two characters, the bytes of a character are read as that character. -/
lemma run_utf8EncodeChar (its : List Item) (c : Char) :
    run ⟨its, none⟩ (String.utf8EncodeChar c) = ⟨.char c :: its, none⟩ := by
  obtain ⟨v, hv⟩ : ∃ v, v = c.val.toNat := ⟨_, rfl⟩
  have hc : Char.ofNat v = c := by rw [hv]; exact Char.ofNat_toNat c
  have hvalid : v < 0xD800 ∨ 0xDFFF < v ∧ v < 0x110000 := hv ▸ c.valid
  unfold String.utf8EncodeChar
  simp only [← hv]
  by_cases h1 : v ≤ 0x7F
  · rw [if_pos h1, run_cons, run_nil, step_none _ (by omega), start_ascii (by omega), hc]
  rw [if_neg h1]
  by_cases h2 : v ≤ 0x7FF
  · rw [if_pos h2, run_cons, run_cons, run_nil, step_none _ (by omega),
      start_lead (by omega) (lead_two (by omega) h2),
      step_last _ (by omega) (by omega) (by omega),
      show 64 * (v / 64) + v % 64 = v by omega, hc]
  rw [if_neg h2]
  by_cases h3 : v ≤ 0xFFFF
  · obtain ⟨lo, hi, hlead, hlo, hhi⟩ := lead_three (v := v) (by omega) h3 (by omega)
    rw [if_pos h3, run_cons, run_cons, run_cons, run_nil, step_none _ (by omega),
      start_lead (by omega) hlead, step_more _ (by omega) hlo hhi,
      step_last _ (by omega) (by omega) (by omega),
      show 64 * (64 * (v / 4096) + v / 64 % 64) + v % 64 = v by omega, hc]
  · obtain ⟨lo, hi, hlead, hlo, hhi⟩ := lead_four (v := v) (by omega) (by omega)
    rw [if_neg h3, run_cons, run_cons, run_cons, run_cons, run_nil, step_none _ (by omega),
      start_lead (by omega) hlead, step_more _ (by omega) hlo hhi,
      step_more _ (by omega) (by omega) (by omega), step_last _ (by omega) (by omega) (by omega),
      show 64 * (64 * (64 * (v / 262144) + v / 4096 % 64) + v / 64 % 64) + v % 64 = v by omega,
      hc]

lemma run_encode (its : List Item) (t : Text) :
    run ⟨its, none⟩ (Text.encode t) = ⟨(t.map .char).reverse ++ its, none⟩ := by
  induction t generalizing its with
  | nil => rfl
  | cons c t ih =>
    rw [Text.encode_cons, run_append, run_utf8EncodeChar, ih]
    simp

/-- The items of an encoded text are its characters. -/
lemma items_encode (t : Text) : items (Text.encode t) = t.map .char := by
  simp [items, init, run_encode]

lemma fault?_map_char (index : ℕ) (t : Text) : fault? index (t.map .char) = none := by
  induction t generalizing index with
  | nil => rfl
  | cons c t ih => exact ih _

/-- **A text is read back from its bytes.** -/
theorem decode_encode (t : Text) : decode (Text.encode t) = .ok t := by
  have hchars : (t.map Item.char).filterMap Item.char? = t := by
    rw [List.filterMap_map]
    exact List.filterMap_some
  rw [decode, items_encode, fault?_map_char]
  simp only [hchars]

/-! ### Bytes below 128 -/

/-- A byte below 128 stands for a character of its own. -/
lemma toNat_eq_of_mem_utf8EncodeChar {c : Char} {b : UInt8} (h : b ∈ String.utf8EncodeChar c)
    (hb : b.toNat < 0x80) : c.toNat = b.toNat := by
  have hv : c.toNat = c.val.toNat := rfl
  unfold String.utf8EncodeChar at h
  simp only at h
  split_ifs at h with h1 h2 h3 <;>
    simp only [List.mem_cons, List.not_mem_nil, or_false] at h
  · rw [h, toNat_ofNat (by omega), hv]
  all_goals
    exfalso
    rcases h with rfl | rfl | rfl | rfl <;> rw [toNat_ofNat (by omega)] at hb <;> omega

lemma exists_of_mem_encode {t : Text} {b : UInt8} (h : b ∈ Text.encode t) (hb : b.toNat < 0x80) :
    ∃ c ∈ t, c.toNat = b.toNat := by
  obtain ⟨c, hc, hbc⟩ := List.mem_flatMap.1 h
  exact ⟨c, hc, toNat_eq_of_mem_utf8EncodeChar hbc hb⟩

end LinkCourier.Utf8
