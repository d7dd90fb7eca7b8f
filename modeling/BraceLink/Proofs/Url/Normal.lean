import BraceLink.Proofs.Url.Escaped

/-!
# The normal form of a link

A link without a host is only trimmed and escaped (`normalize_of_no_host`), any other one is written from
its escaped parts after its host name is encoded (`normalize_eq`). A second pass leaves it as it is if its
host is read as it is written (`normalize_normalize`); in general it changes what reading and writing
changes (`normalize_normalize_eq_write`).
-/

namespace BraceLink.Url

open Text (splitOn join)

/-! ### Recoded host names -/

namespace Punycode

open Parts (isLabelChar)

theorem isLabelChar_digitChar {d : Nat} (h : d < 36) : isLabelChar (digitChar d) = true := by
  revert d
  decide

theorem threshold_le (bias k : Nat) : threshold bias k ≤ 26 := by
  unfold threshold
  split_ifs <;> omega

theorem isLabelChar_of_mem_writeFrom {bias k n : Nat} {c : Char} (h : c ∈ writeFrom bias k n) :
    isLabelChar c = true := by
  fun_induction writeFrom bias k n with
  | case1 k n hlast =>
    have hthreshold := threshold_le bias k
    rw [List.mem_singleton.mp h]
    exact isLabelChar_digitChar (by omega)
  | case2 k n hmore t ih =>
    have hthreshold : t ≤ 26 := threshold_le bias k
    rcases List.mem_cons.mp h with rfl | h
    · have hmod := Nat.mod_lt (n - t) (y := 36 - t) (by omega)
      exact isLabelChar_digitChar (by omega)
    · exact ih h

theorem isLabelChar_of_mem_pass {basic target : Nat} {w : Writer} {c d : Char}
    (hw : ∀ c ∈ w.out, isLabelChar c = true) (hc : c ∈ (w.pass basic target d).out) :
    isLabelChar c = true := by
  unfold Writer.pass at hc
  split_ifs at hc
  · exact hw c hc
  · rcases List.mem_append.mp hc with hc | hc
    · exact hw c hc
    · exact isLabelChar_of_mem_writeFrom hc
  · exact hw c hc

theorem isLabelChar_of_mem_insertAll {label : Text} {basic : Nat} {targets : List Nat} {current : Nat}
    {w : Writer} (hw : ∀ c ∈ w.out, isLabelChar c = true) :
    ∀ c ∈ (Writer.insertAll label basic targets current w).out, isLabelChar c = true := by
  have hpasses : ∀ (target : Nat) (chars : Text) (w : Writer), (∀ c ∈ w.out, isLabelChar c = true) →
      ∀ c ∈ (chars.foldl (Writer.pass basic target) w).out, isLabelChar c = true := by
    intro target chars
    induction chars with
    | nil => exact fun w hw => hw
    | cons d chars ih => exact fun w hw => ih _ fun c hc => isLabelChar_of_mem_pass hw hc
  induction targets generalizing current w with
  | nil => exact hw
  | cons target rest ih => exact ih (hpasses _ _ _ hw)

theorem mem_encode {label : Text} {c : Char} (h : c ∈ encode label) : c ∈ label ∨ isLabelChar c = true := by
  have hwritten : ∀ targets basic,
      c ∈ (Writer.insertAll label basic targets 0x80 ⟨[], 0, 72, basic⟩).out → isLabelChar c = true :=
    fun _ _ => isLabelChar_of_mem_insertAll (by simp) c
  unfold encode at h
  dsimp only at h
  split_ifs at h
  · exact Or.inr (hwritten _ _ h)
  · rcases List.mem_append.mp h with h | h
    · exact Or.inl (List.mem_filter.mp h).1
    · rcases List.mem_cons.mp h with rfl | h
      · exact Or.inr (by decide)
      · exact Or.inr (hwritten _ _ h)

end Punycode

namespace Parts

variable {parts : Parts}

theorem mem_mapLabels {name : Text} {c : Char} (hat : '@' ∉ name) (h : c ∈ mapLabels asciiLabel name) :
    c ∈ name ∨ isNameChar c = true := by
  have hlabel : ∀ label, c ∈ asciiLabel label → c ∈ label ∨ isNameChar c = true := by
    intro label hc
    unfold asciiLabel at hc
    split_ifs at hc
    · rcases List.mem_append.mp hc with hc | hc
      · exact Or.inr (List.all_eq_true.mp (by decide : ("xn--" : String).toList.all isNameChar = true) c hc)
      · exact (Punycode.mem_encode hc).imp_right fun hc => by simp [isNameChar, hc]
    · exact Or.inl hc
  rw [mapLabels, Text.splitOn_of_not_mem hat] at h
  rcases Text.mem_join h with rfl | ⟨piece, hpiece, hc⟩
  · exact Or.inr (by decide)
  · obtain ⟨label, hmem, rfl⟩ := List.mem_map.mp hpiece
    rcases hlabel label hc with hc | hc
    · obtain ⟨d, hd, hdc⟩ := List.mem_map.mp (Text.mem_of_mem_splitOn hmem hc)
      split_ifs at hdc
      · exact Or.inr (hdc ▸ by decide)
      · exact Or.inl (hdc ▸ hd)
    · exact Or.inr hc

theorem endsHost_of_isNameChar {c : Char} (h : isNameChar c = true) : endsHost c = false ∧ c ≠ '@' := by
  constructor
  · rw [← Bool.not_eq_true]
    intro hends
    exact List.any_eq_false.mp (by decide : List.any _ isNameChar = false) c (of_decide_eq_true hends) h
  · rintro rfl
    exact absurd h (by decide)

/-- The parts with the labels of the host name in their ASCII form, where host names are encoded. -/
def recoded (parts : Parts) : Parts :=
  if recodesHost parts.protocol && !parts.hostName.isEmpty then
    { parts with hostName := mapLabels asciiLabel parts.hostName }
  else parts

theorem recoded_eq (parts : Parts) : parts.recoded = { parts with hostName := parts.recoded.hostName } := by
  unfold recoded
  split_ifs <;> rfl

theorem Sound.recoded (h : parts.Sound) : parts.recoded.Sound := by
  unfold Parts.recoded
  split_ifs with hrecode
  · have hmem : parts.hostName ≠ [] := by
      rw [Bool.and_eq_true] at hrecode
      simpa using hrecode.2
    exact
      { h with
        bare := fun hbare => absurd (h.bare hbare).2.1 hmem
        hostName := fun c hc => by
          rcases mem_mapLabels (fun hat => (h.hostName _ hat).2 rfl) hc with hc | hc
          · exact h.hostName c hc
          · exact endsHost_of_isNameChar hc }
  · exact h

theorem asciiLabel_eq_self {label : Text} (h : ∀ c ∈ label, c.toNat < 0x7F) : asciiLabel label = label := by
  rw [asciiLabel, if_neg]
  simp only [List.any_eq_true, decide_eq_true_eq, not_exists, not_and]
  intro c hc hlarge
  have hsmall := h c hc
  omega

theorem mapLabels_eq_self {name : Text} (h : ∀ c ∈ name, c.toNat < 0x7F ∧ c ≠ '@') :
    mapLabels asciiLabel name = name := by
  have hmap : (name.map fun c => if isLabelSeparator c then '.' else c) = name := by
    refine (List.map_congr_left fun c hc => ?_).trans (List.map_id' name)
    split_ifs with hseparator
    · have hascii := (h c hc).1
      simp only [isLabelSeparator, Bool.or_eq_true, decide_eq_true_eq] at hseparator
      rcases hseparator with ((hdot | hcode) | hcode) | hcode
      · exact hdot.symm
      all_goals omega
    · rfl
  rw [mapLabels, Text.splitOn_of_not_mem fun hat => (h _ hat).2 rfl]
  dsimp only
  rw [hostLabels, hmap, List.map_congr_left fun label hlabel =>
    asciiLabel_eq_self fun c hc => (h c (Text.mem_of_mem_splitOn hlabel hc)).1]
  simpa using Text.join_splitOn '.' name

theorem recoded_eq_self (h : ∀ c ∈ parts.hostName, c.toNat < 0x7F ∧ c ≠ '@') :
    parts.recoded = parts := by
  unfold recoded
  split_ifs
  · rw [mapLabels_eq_self h]
  · rfl

end Parts

/-! ### Normal forms -/

theorem normalize_eq (url : Text) : normalize url = (Parts.read url).recoded.escaped.write :=
  (Parts.read_sound url).recoded.writeEscaped_eq

/-- A normal form consists of plain characters, percent signs and brackets. -/
theorem isPlain_of_mem_normalize {url : Text} {c : Char} (h : c ∈ normalize url) :
    isPlain c = true ∨ c ∈ ['%', '[', ']'] := by
  have hescaped : ∀ {text : Text}, c ∈ escape text → isPlain c = true ∨ c ∈ ['%', '[', ']'] := fun hc =>
    (isPlain_or_percent_of_mem_escape hc).imp_right fun hpercent => by simp [hpercent]
  change c ∈ writeEscaped (Parts.read url).recoded at h
  unfold writeEscaped at h
  split_ifs at h
  · simp only [List.mem_append, List.mem_cons] at h
    rcases h with (h | rfl | h) | rfl | h
    · exact hescaped h
    · simp
    · exact hescaped h
    · simp
    · exact hescaped h
  · exact hescaped h

theorem toNat_of_mem_normalize {url : Text} {c : Char} (h : c ∈ normalize url) :
    0x20 < c.toNat ∧ c.toNat < 0x7F := by
  rcases isPlain_of_mem_normalize h with hplain | hmark
  · exact toNat_of_isPlain hplain
  · simp only [List.mem_cons, List.not_mem_nil, or_false] at hmark
    rcases hmark with rfl | rfl | rfl <;> decide

theorem strip_normalize (url : Text) : Text.strip (normalize url) = normalize url :=
  Text.strip_eq_self fun _ hc => isBlank_eq_false (toNat_of_mem_normalize hc)

theorem normalize_of_no_host {url : Text} (h : ¬ (Parts.read url).MayHaveHost) :
    normalize url = escape (Text.strip url) := by
  obtain ⟨-, hname, -⟩ := (Parts.read_sound url).bare (Bool.not_eq_true _ ▸ h)
  have hrecoded : (Parts.read url).recoded = Parts.read url := by
    rw [Parts.recoded, hname, if_neg (by simp)]
  have hbrackets : ¬ (Parts.read url).needsBrackets = true := by simp [Parts.needsBrackets, hname]
  rw [← Parts.write_read_of_no_host h]
  change writeEscaped (Parts.read url).recoded = _
  rw [hrecoded, writeEscaped, if_neg hbrackets]

namespace Parts

/-- The parts of an escaped text are escaped, and none of their host names needs to be encoded. -/
theorem read_of_escaped {url : Text} (hself : escape url = url) :
    (read url).recoded.escaped = read url := by
  have hsound := read_sound url
  obtain ⟨protocol, slashes, rest, hopening⟩ := exists_isOpening url
  obtain ⟨hprotocol, hrest⟩ := hopening.escape_eq_self hself
  cases hhost : mayHaveHost protocol slashes with
  | false =>
    rw [read_of_no_host hopening hhost] at hsound ⊢
    rw [recoded_eq_self (by simp)]
    refine hsound.escaped_eq_self hprotocol rfl rfl ?_
    rw [Parts.tail, cutPath_spelled, hrest]
  | true =>
    obtain ⟨user, host, beyond, name, port, used, excess, h⟩ := exists_isAuthority rest
    obtain ⟨huser, hplain, hbeyond⟩ := h.escape_eq_self hrest
    have hpieces : ∀ c, c ∈ used ∨ c ∈ excess → isPlain c = true := fun c hc =>
      hplain c (h.mem_host c hc)
    rw [read_of_isAuthority hopening hhost h] at hsound ⊢
    rw [recoded_eq_self fun c hc =>
      ⟨(toNat_of_isPlain (hpieces c (Or.inl hc))).2, (hsound.hostName c hc).2⟩]
    refine hsound.escaped_eq_self hprotocol huser
      (Url.escape_eq_self fun c hc => hpieces c (Or.inl hc)) ?_
    have hexcess : '%' ∉ excess := fun hmem => ne_percent_of_isPlain (hpieces _ (Or.inr hmem)) rfl
    rw [Parts.tail, cutPath_spelled, escape_append_of_not_mem hexcess, hbeyond,
      Url.escape_eq_self fun c hc => hpieces c (Or.inr hc)]

end Parts

/-- What a second pass changes is what reading and writing changes, unless there are brackets. -/
theorem normalize_normalize_eq_write {url : Text} (h : '[' ∉ normalize url) :
    normalize (normalize url) = (Parts.read (normalize url)).write := by
  have hself : escape (normalize url) = normalize url := by
    change escape (writeEscaped (Parts.read url).recoded) = writeEscaped (Parts.read url).recoded
    change '[' ∉ writeEscaped (Parts.read url).recoded at h
    unfold writeEscaped at h ⊢
    split_ifs at h ⊢
    · simp at h
    · exact escape_escape _
  rw [normalize_eq (normalize url), Parts.read_of_escaped hself]

theorem normalize_eq_nil_iff {url : Text} : normalize url = [] ↔ Text.strip url = [] := by
  by_cases hhost : (Parts.read url).MayHaveHost
  · -- both texts begin with the protocol or with slashes
    obtain ⟨protocol, slashes, rest, hopening⟩ := Parts.exists_isOpening url
    have hopens := Parts.ne_nil_of_mayHaveHost (hopening.mayHaveHost_iff.mp hhost)
    have hprotocol : (Parts.read url).recoded.escaped.protocol = escape protocol := by
      rw [Parts.recoded_eq, ← hopening.read_opening.1]
      rfl
    have hslashes : (Parts.read url).recoded.escaped.slashes = slashes := by
      rw [Parts.recoded_eq, ← hopening.read_opening.2]
      rfl
    have hfront : ∀ {front : Text}, (front ≠ [] ∨ slashes = true) →
        ∀ behind, front ++ Parts.slashText slashes ++ behind ≠ [] := by
      intro front hfront behind hnil
      rw [List.append_eq_nil_iff, List.append_eq_nil_iff] at hnil
      rcases hfront with hfront | hslashes
      · exact hfront hnil.1.1
      · rw [hslashes] at hnil
        exact absurd hnil.1.2 (by decide)
    rw [normalize_eq, Parts.write_eq, hopening.strip_eq, hprotocol, hslashes]
    refine iff_of_false (hfront ?_ _) (hfront hopens _)
    exact hopens.imp_left (mt escape_eq_nil_iff.mp)
  · rw [normalize_of_no_host hhost, escape_eq_nil_iff]

/-- **A normal form stays as it is** if it has no host, or one that is read as it is written. -/
theorem normalize_normalize {url : Text}
    (h : (Parts.read url).MayHaveHost → (Parts.read url).recoded.IsRegular) :
    normalize (normalize url) = normalize url := by
  by_cases hhost : (Parts.read url).MayHaveHost
  · have hregular := h hhost
    have hsound := (Parts.read_sound url).recoded
    have hescaped := hsound.escaped hregular.protocol hregular.name.isPlain
    have hread : Parts.read (normalize url) = (Parts.read url).recoded.escaped := by
      rw [normalize_eq]
      refine (hregular.escaped hsound).read_write hescaped ?_ (normalize_eq url ▸ strip_normalize url)
      rw [Parts.MayHaveHost, show (Parts.read url).recoded.escaped.protocol =
        (Parts.read url).recoded.protocol from escape_eq_self hregular.protocol]
      rw [Parts.recoded_eq]
      exact hhost
    have hrecoded : (Parts.read url).recoded.escaped.recoded = (Parts.read url).recoded.escaped :=
      Parts.recoded_eq_self fun c hc =>
        ⟨(toNat_of_isPlain ((hregular.escaped hsound).name.isPlain c hc)).2, (hescaped.hostName c hc).2⟩
    rw [normalize_eq (normalize url), hread, hrecoded, Parts.escaped_escaped, ← normalize_eq]
  · rw [normalize_of_no_host hhost, normalize_of_no_host (Parts.not_mayHaveHost_escape hhost), strip_escape,
      escape_escape]

end BraceLink.Url
