import Mathlib.Data.List.Basic
import LinkCourier.Link.Parse
import LinkCourier.Proofs.Text.Unbroken

/-!
Links stay on one line. Reading drops the line breaks inside a link, and what it writes is put
together of pieces of the rest, of percent signs and digits, and of host names, which have no
controls in them.
-/

namespace LinkCourier

open Text

variable {s t u : Text} {c : Char}

lemma isBreak_ofNat {n : ℕ} (h : 13 < n) : isBreak (Char.ofNat n) = false := by
  rw [isBreak_eq_false_iff, Ne, Ne, ← Char.toNat_inj, ← Char.toNat_inj]
  by_cases hn : n.isValidChar
  · rw [Char.ofNat, dif_pos hn]
    show n ≠ 13 ∧ n ≠ 10
    omega
  · rw [Char.ofNat, dif_neg hn]
    decide

/-- A letter becomes a letter, and everything else stays as it is. -/
lemma isBreak_toLower (h : isBreak c = false) : isBreak c.toLower = false := by
  unfold Char.toLower
  split
  · rename_i hc
    have hlow : 65 ≤ c.val.toNat := hc.1
    have hhigh : c.val.toNat ≤ 90 := hc.2
    have hval : (c.val + ('a'.val - 'A'.val)).toNat = c.val.toNat + 32 := by
      rw [UInt32.toNat_add]
      refine Nat.mod_eq_of_lt ?_
      show c.val.toNat + 32 < UInt32.size
      have hsize : UInt32.size = 4294967296 := rfl
      omega
    rw [isBreak_eq_false_iff, Ne, Ne, ← Char.toNat_inj, ← Char.toNat_inj]
    show (c.val + ('a'.val - 'A'.val)).toNat ≠ 13 ∧ (c.val + ('a'.val - 'A'.val)).toNat ≠ 10
    omega
  · exact h

lemma unbroken_map_toLower (h : Unbroken t) : Unbroken (t.map Char.toLower) := by
  intro c hc
  obtain ⟨d, hd, rfl⟩ := List.mem_map.1 hc
  exact isBreak_toLower (h d hd)

/-! ### Percent signs -/

namespace Percent

lemma unbroken_encodeByte (b : UInt8) : Unbroken (encodeByte b) := by
  have hdigit : ∀ n < 16, isBreak (Nat.digitChar n).toUpper = false := by decide
  have hb : b.toNat < 256 := b.toNat_lt
  refine unbroken_cons.2 ⟨rfl, unbroken_cons.2 ⟨hdigit _ (by omega), ?_⟩⟩
  exact unbroken_cons.2 ⟨hdigit _ (by omega), unbroken_nil⟩

lemma unbroken_encode (p : Char → Bool) (h : Unbroken t) : Unbroken (encode p t) := by
  intro c hc
  obtain ⟨d, hd, hc⟩ := List.mem_flatMap.1 hc
  split at hc
  · obtain ⟨b, -, hc⟩ := List.mem_flatMap.1 hc
    exact unbroken_encodeByte b c hc
  · rw [List.mem_singleton.1 hc]
    exact h d hd

end Percent

/-! ### Host names -/

namespace Punycode

lemma isBreak_digit (d : ℕ) : isBreak (digit d) = false := by
  have ha : 'a'.toNat = 97 := rfl
  have h0 : '0'.toNat = 48 := rfl
  unfold digit
  split <;> exact isBreak_ofNat (by omega)

lemma unbroken_digits (bias k n : ℕ) : Unbroken (digits bias k n) := by
  fun_induction digits bias k n with
  | case1 => exact unbroken_cons.2 ⟨isBreak_digit _, unbroken_nil⟩
  | case2 k n t h ih => exact unbroken_cons.2 ⟨isBreak_digit _, ih⟩

lemma unbroken_writeGaps (first : Bool) (bias count : ℕ) (gs : List ℕ) :
    Unbroken (writeGaps first bias count gs) := by
  induction gs generalizing first bias count with
  | nil => exact unbroken_nil
  | cons g gs ih => exact unbroken_append.2 ⟨unbroken_digits bias 36 g, ih _ _ _⟩

lemma unbroken_encode (h : Unbroken t) : Unbroken (encode t) := by
  have hbasic : Unbroken (t.filter isBasic) := h.of_subset (List.filter_sublist).subset
  refine unbroken_append.2 ⟨unbroken_append.2 ⟨hbasic, ?_⟩, unbroken_writeGaps _ _ _ _⟩
  split
  · exact unbroken_nil
  · exact unbroken_cons.2 ⟨rfl, unbroken_nil⟩

end Punycode

namespace Name

lemma unbroken_of_not_isForbidden (h : t.any isForbidden = false) : Unbroken t := by
  intro c hc
  have hno : isForbidden c = false := by simpa using List.any_eq_false.1 h c hc
  rw [isBreak_eq_false_iff]
  constructor <;> rintro rfl <;> exact absurd hno (by decide)

lemma unbroken_tag : Unbroken tag := by decide

lemma exists_of_mem_mapM {α β : Type} {f : α → Option β} {xs : List α} {ys : List β} {y : β}
    (h : xs.mapM f = some ys) (hy : y ∈ ys) : ∃ x ∈ xs, f x = some y := by
  induction xs generalizing ys with
  | nil =>
    cases h
    cases hy
  | cons x xs ih =>
    simp only [List.mapM_cons, Option.bind_eq_bind, Option.bind_eq_some_iff] at h
    obtain ⟨z, hz, zs, hzs, h⟩ := h
    cases h
    rcases List.mem_cons.1 hy with rfl | hy
    · exact ⟨x, List.mem_cons_self, hz⟩
    · obtain ⟨x', hx', hy'⟩ := ih hzs hy
      exact ⟨x', List.mem_cons_of_mem x hx', hy'⟩

lemma Label.unbroken_written {l : Label} (ht : Unbroken t) (h : Label.ofText? t = some l) :
    Unbroken l.written := by
  unfold Label.ofText? at h
  split at h
  · split at h
    · simp only [Label.ofPunycode?, Option.bind_eq_bind, Option.bind_eq_some_iff] at h
      obtain ⟨read, -, h⟩ := h
      split at h
      · cases h
        exact unbroken_append.2 ⟨unbroken_tag, ht.of_subset (List.drop_subset _ _)⟩
      · cases h
    · cases h
      exact ht
  · split at h
    · cases h
      exact unbroken_append.2 ⟨unbroken_tag, Punycode.unbroken_encode ht⟩
    · cases h

/-- What is written of a name is made of texts without a forbidden character. -/
lemma unbroken_ofText? (h : ofText? t = some s) : Unbroken s := by
  unfold ofText? at h
  split at h
  · split at h
    · cases h
    · rename_i hno
      cases h
      exact unbroken_map_toLower (unbroken_of_not_isForbidden (by simpa using hno))
  · simp only [Option.bind_eq_bind, Option.bind_eq_some_iff] at h
    obtain ⟨u, -, h⟩ := h
    split at h
    · cases h
    rename_i hno
    have hu : Unbroken u := unbroken_of_not_isForbidden (by simpa using hno)
    obtain ⟨ls, hls, h⟩ := Option.bind_eq_some_iff.1 h
    split at h
    · cases h
      refine unbroken_intercalate (by decide) fun w hw => ?_
      obtain ⟨l, hl, rfl⟩ := List.mem_map.1 hw
      obtain ⟨label, hlabel, hread⟩ := exists_of_mem_mapM hls hl
      exact Label.unbroken_written (unbroken_splitOnP hu _ label hlabel) hread
    · cases h

end Name

lemma Address.unbroken_v4Text (n : ℕ) : Unbroken (Address.v4Text n) := by
  refine unbroken_intercalate (by decide) fun t ht => ?_
  obtain ⟨b, -, rfl⟩ := List.mem_map.1 ht
  exact unbroken_toDigits 10 b

lemma Address.unbroken_v6Text (ps : List ℕ) : Unbroken (Address.v6Text ps) := by
  have hjoin (ps : List ℕ) : Unbroken (List.intercalate [':'] (ps.map Address.hex)) := by
    refine unbroken_intercalate (by decide) fun t ht => ?_
    obtain ⟨b, -, rfl⟩ := List.mem_map.1 ht
    exact unbroken_toDigits 16 b
  unfold Address.v6Text
  dsimp only
  split
  · exact hjoin ps
  · exact unbroken_append.2 ⟨unbroken_append.2 ⟨hjoin _, by decide⟩, hjoin _⟩

/-! ### Links -/

namespace WebLink

/-- The parts of a web link that are texts are without line breaks. -/
structure OnLine (l : WebLink) : Prop where
  user : Unbroken l.user
  password : Unbroken l.password
  host : Unbroken l.host.text
  path : ∀ s ∈ l.path, Unbroken s
  query : ∀ s ∈ l.query, Unbroken s
  fragment : ∀ s ∈ l.fragment, Unbroken s

lemma unbroken_marked {part : Option Text} (h : ∀ s ∈ part, Unbroken s) (hc : isBreak c = false) :
    Unbroken (marked c part) := by
  cases part with
  | none => exact unbroken_nil
  | some s => exact unbroken_cons.2 ⟨hc, h s rfl⟩

lemma OnLine.text {l : WebLink} (h : OnLine l) : Unbroken l.text := by
  have hname : Unbroken l.scheme.name.toList := by cases l.scheme <;> decide
  have hslashes : Unbroken "://".toList := by decide
  have hcredentials : Unbroken l.credentials := by
    have huser := h.user
    have hpassword := h.password
    unfold credentials
    split
    · exact unbroken_nil
    split <;> simp [huser, hpassword, isBreak]
  have hport : Unbroken (marked ':' (l.port.map Decimal.digits)) := by
    refine unbroken_marked (fun s hs => ?_) rfl
    obtain ⟨n, -, rfl⟩ := Option.map_eq_some_iff.1 hs
    exact unbroken_toDigits 10 n
  have hpath : Unbroken (l.path.flatMap ('/' :: ·)) := by
    refine unbroken_flatten fun s hs => ?_
    obtain ⟨t, ht, rfl⟩ := List.mem_map.1 hs
    exact unbroken_cons.2 ⟨rfl, h.path t ht⟩
  have hquery := unbroken_marked h.query (c := '?') rfl
  have hfragment := unbroken_marked h.fragment (c := '#') rfl
  simp only [WebLink.text, unbroken_append]
  exact ⟨⟨⟨⟨⟨⟨⟨hname, hslashes⟩, hcredentials⟩, h.host⟩, hport⟩, hpath⟩, hquery⟩, hfragment⟩

end WebLink

namespace Link

lemma unbroken_clean (t : Text) : Unbroken (clean t) := by
  intro c hc
  have hkept := (List.mem_filter.1 hc).2
  rw [isBreak_eq_false_iff]
  constructor <;> rintro rfl <;> exact absurd hkept (by decide)

lemma unbroken_cutScheme? (ht : Unbroken t) (h : cutScheme? t = some (s, u)) :
    Unbroken s ∧ Unbroken u := by
  have hspan := ht.span isSchemeChar
  unfold cutScheme? at h
  split at h
  · rename_i name rest heq
    rw [heq] at hspan
    split at h
    · cases h
      exact ⟨unbroken_map_toLower hspan.1, (unbroken_cons.1 hspan.2).2⟩
    · cases h
  · cases h

lemma unbroken_cutUserinfo? (ht : Unbroken t) (h : cutUserinfo? t = some (s, u)) :
    Unbroken s ∧ Unbroken u := by
  have hspan := ht.reverse.span (· != '@')
  unfold cutUserinfo? at h
  split at h
  · cases h
  · rename_i back c front heq
    rw [heq] at hspan
    cases h
    exact ⟨(unbroken_cons.1 hspan.2).2.reverse, hspan.1.reverse⟩

lemma unbroken_readHost {host : Host} (h : readHost t = .ok host) : Unbroken host.text := by
  unfold readHost at h
  split at h
  · unfold readV6 at h
    split at h
    · split at h
      · cases h
        have hv6 := Address.unbroken_v6Text
        simp [Host.text, hv6, isBreak]
      · cases h
    · cases h
  · split at h
    · cases h
    rename_i n hn
    split at h
    · cases h
    split at h
    · split at h
      · cases h
        exact Address.unbroken_v4Text _
      · cases h
    · cases h
      unfold Name.ofBytes? at hn
      split at hn
      · cases hn
      · exact Name.unbroken_ofText? hn

/-- The segments of a path are encoded, and an empty one stands for dots at the end. -/
lemma unbroken_walk {passed ss : List Text} (hpassed : ∀ s ∈ passed, Unbroken s)
    (hss : ∀ s ∈ ss, Unbroken s) : ∀ s ∈ walk passed ss, Unbroken s := by
  have hnil {ps : List Text} (hps : ∀ s ∈ ps, Unbroken s) : ∀ s ∈ [] :: ps, Unbroken s :=
    List.forall_mem_cons.2 ⟨unbroken_nil, hps⟩
  induction ss generalizing passed with
  | nil => exact fun s hs => hpassed s (List.mem_reverse.1 hs)
  | cons s ss ih =>
    obtain ⟨hs, hss⟩ := List.forall_mem_cons.1 hss
    have hleave : ∀ s ∈ leave passed, Unbroken s := by
      unfold leave
      split
      · exact hpassed
      · split
        · exact hpassed
        · exact (List.forall_mem_cons.1 hpassed).2
    unfold walk
    dsimp only
    split
    · refine ih ?_ hss
      split
      · exact hnil hleave
      · exact hleave
    split
    · refine ih ?_ hss
      split
      · exact hnil hpassed
      · exact hpassed
    · exact ih (List.forall_mem_cons.2 ⟨Percent.unbroken_encode _ hs, hpassed⟩) hss

lemma unbroken_readPath (ht : Unbroken t) : ∀ s ∈ readPath t, Unbroken s := by
  refine unbroken_walk (by simp) (unbroken_splitOnP ?_ isSlash)
  split
  · split
    · exact (unbroken_cons.1 ht).2
    · exact ht
  · exact unbroken_nil

lemma unbroken_behind (ht : Unbroken t) (mark : Char) (p : Char → Bool) :
    ∀ s ∈ behind mark p t, Unbroken s := by
  intro s hs
  unfold behind at hs
  split at hs
  · split at hs
    · cases hs
      exact Percent.unbroken_encode p (unbroken_cons.1 ht).2
    · cases hs
  · cases hs

lemma onLine_readWeb {scheme : WebScheme} {l : WebLink} (ht : Unbroken t)
    (h : readWeb scheme t = .ok l) : l.OnLine := by
  have hcut := (ht.dropWhile isSlash).span (!endsAuthority true ·)
  unfold readWeb at h
  generalize (t.dropWhile isSlash).span (!endsAuthority true ·) = cut at h hcut
  obtain ⟨authority, rest⟩ := cut
  have huser : Unbroken ((cutUserinfo? authority).getD ([], authority)).1 := by
    rcases hc : cutUserinfo? authority with _ | ⟨userinfo, place⟩
    · exact unbroken_nil
    · exact (unbroken_cutUserinfo? hcut.1 hc).1
  dsimp only at h
  split at h
  · cases h
  split at h
  · cases h
  rcases hhost : readHost (cutHost false ((cutUserinfo? authority).getD ([], authority)).2).1
    with f | host
  · rw [hhost] at h
    cases h
  rcases hport : readPort (cutHost false ((cutUserinfo? authority).getD ([], authority)).2).2
    with f | port
  · rw [hhost, hport] at h
    cases h
  rw [hhost, hport] at h
  cases h
  have hparts := huser.span (· != ':')
  have hpath := hcut.2.span fun c => !(c == '?' || c == '#')
  have hmarked := hpath.2.span (· != '#')
  exact {
    user := Percent.unbroken_encode _ hparts.1
    password := Percent.unbroken_encode _ (hparts.2.of_subset (List.drop_subset 1 _))
    host := unbroken_readHost hhost
    path := unbroken_readPath hpath.1
    query := unbroken_behind hmarked.1 '?' _
    fragment := unbroken_behind hmarked.2 '#' _ }

/-- What a reader makes of links, and what it says of texts that are none, stays on one line. -/
structure Reader.Unbroken {α : Type} (k : Reader α) : Prop where
  text : ∀ t l, k.parse t = .ok l → Text.Unbroken (k.text l)
  scheme : ∀ t l, k.parse t = .ok l → Text.Unbroken (k.scheme l)
  reason : ∀ t reason, k.parse t = .error reason → Text.Unbroken reason

lemma unbroken_parse {l : Link} (h : parse t = .ok l) : Unbroken l.text ∧ Unbroken l.scheme := by
  unfold parse at h
  split at h
  · cases h
  rename_i scheme rest hcut
  obtain ⟨hscheme, hrest⟩ := unbroken_cutScheme? (unbroken_clean t) hcut
  split at h
  · rename_i s hs
    rcases hread : readWeb s rest with f | l
    · rw [hread] at h
      cases h
    · rw [hread] at h
      cases h
      have hname : Unbroken l.scheme.name.toList := by cases l.scheme <;> decide
      exact ⟨(onLine_readWeb hrest hread).text, hname⟩
  · dsimp only at h
    rcases hread : (if scheme = "file".toList then checkFile rest else checkOther rest) with f | l
    · rw [hread] at h
      cases h
    · rw [hread] at h
      cases h
      exact ⟨unbroken_append.2 ⟨hscheme, by decide⟩, hscheme⟩

/-- **The reader of links** never breaks a line. -/
theorem unbroken_reader : reader.Unbroken := by
  have hparse {t : Text} {l : Link} (h : reader.parse t = .ok l) : parse t = .ok l := by
    rcases hl : parse t with f | m
    · simp [reader, hl, Except.mapError] at h
    · simpa [reader, hl, Except.mapError] using h
  refine ⟨fun t l h => (unbroken_parse (hparse h)).1, fun t l h => (unbroken_parse (hparse h)).2,
    fun t reason h => ?_⟩
  rcases hl : parse t with f | m
  · have hreason : f.message.toList = reason := by
      simpa [reader, hl, Except.mapError] using h
    rw [← hreason]
    cases f <;> decide
  · simp [reader, hl, Except.mapError] at h

end Link

end LinkCourier
