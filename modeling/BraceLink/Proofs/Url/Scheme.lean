import BraceLink.Proofs.Url.Normal

/-!
# The scheme of a normal form

Whether a URL begins with a given scheme is decided by the characters before its first colon
(`hasScheme_iff`). None of them is escaped in the normal form, and no escape looks like one of them, so
normalising a link neither hides a scheme nor makes one (`hasScheme_normalize_iff`).
-/

namespace BraceLink.Url

/-- The URL begins with the scheme and a colon, in either case. -/
def HasScheme (scheme url : Text) : Prop := scheme ++ [':'] <+: Text.lowerAscii url

instance (scheme url : Text) : Decidable (HasScheme scheme url) :=
  inferInstanceAs (Decidable (scheme ++ [':'] <+: Text.lowerAscii url))

/-! ### Small letters -/

theorem toNat_lt_of_toLower {c : Char} (h : c.toLower.toNat < 128) : c.toNat < 128 := by
  unfold Char.toLower at h
  split_ifs at h with hupper
  · have hle : c.toNat ≤ 90 := hupper.2
    omega
  · exact h

theorem eq_colon_of_toLower {c : Char} (h : c.toLower = ':') : c = ':' :=
  ascii_cases (p := fun c => c.toLower = ':' → c = ':') (by decide)
    (toNat_lt_of_toLower (by rw [h]; decide)) h

theorem isAlpha_of_isLower_toLower {c : Char} (h : c.toLower.isLower = true) : c.isAlpha = true := by
  have halpha : c.toLower.isAlpha = true := by
    change (c.toLower.isUpper || c.toLower.isLower) = true
    rw [h, Bool.or_true]
  have hsmall : c.toLower.toNat < 128 := toNat_lt_of_isAlphanum (by simp [Char.isAlphanum, halpha])
  exact ascii_cases (p := fun c => c.toLower.isLower = true → c.isAlpha = true) (by decide)
    (toNat_lt_of_toLower hsmall) h

section

variable {scheme : Text}

theorem hasScheme_iff {url : Text} :
    HasScheme scheme url ↔ ∃ name rest, url = name ++ ':' :: rest ∧ Text.lowerAscii name = scheme := by
  constructor
  · rintro ⟨after, hafter⟩
    obtain ⟨front, rest, rfl, hfront, -⟩ := List.map_eq_append_iff.mp hafter.symm
    obtain ⟨name, colon, rfl, hname, hcolon⟩ := List.map_eq_append_iff.mp hfront
    obtain ⟨c, rfl, hc⟩ := List.map_eq_singleton_iff.mp hcolon
    rw [eq_colon_of_toLower hc]
    exact ⟨name, rest, by simp, hname⟩
  · rintro ⟨name, rest, rfl, rfl⟩
    exact ⟨Text.lowerAscii rest, by simp [Text.lowerAscii]⟩

theorem colon_mem_of_hasScheme {url : Text} (h : HasScheme scheme url) : ':' ∈ url := by
  obtain ⟨name, rest, rfl, -⟩ := hasScheme_iff.mp h
  simp

theorem isPlain_of_isAlpha {c : Char} (h : c.isAlpha = true) : isPlain c = true := by
  simp [isPlain, Char.isAlphanum, h]

variable (hsmall : ∀ c ∈ scheme, c.isLower = true)

include hsmall

theorem isAlpha_of_lowerAscii {name : Text} (h : Text.lowerAscii name = scheme) :
    ∀ c ∈ name, c.isAlpha = true := fun _ hc =>
  isAlpha_of_isLower_toLower (hsmall _ (h ▸ List.mem_map_of_mem hc))

theorem not_mem_of_lowerAscii {name : Text} (h : Text.lowerAscii name = scheme) {c : Char}
    (hc : c.isAlpha = false) : c ∉ name := fun hmem => by
  rw [isAlpha_of_lowerAscii hsmall h c hmem] at hc
  exact absurd hc (by simp)

theorem hasScheme_append_colon {name : Text} (hname : ':' ∉ name) (rest : Text) :
    HasScheme scheme (name ++ ':' :: rest) ↔ Text.lowerAscii name = scheme := by
  rw [hasScheme_iff]
  constructor
  · rintro ⟨other, after, heq, hother⟩
    have hcolon : ':' ∉ other := not_mem_of_lowerAscii hsmall hother (by decide)
    have hcut := Text.cut_of_mem hcolon after
    rw [← heq, Text.cut_of_mem hname] at hcut
    obtain ⟨rfl, -⟩ := Prod.mk.inj hcut
    exact hother
  · exact fun h => ⟨name, rest, rfl, h⟩

theorem not_hasScheme_slash (hne : scheme ≠ []) (rest : Text) : ¬ HasScheme scheme ('/' :: rest) := by
  intro h
  obtain ⟨name, after, heq, hname⟩ := hasScheme_iff.mp h
  cases name with
  | nil => exact hne hname.symm
  | cons c name =>
    refine not_mem_of_lowerAscii hsmall hname (by decide : '/'.isAlpha = false) ?_
    rw [(List.cons.inj heq).1]
    exact List.mem_cons_self

theorem lowerAscii_escape_eq_iff {name : Text} :
    Text.lowerAscii (escape name) = scheme ↔ Text.lowerAscii name = scheme := by
  constructor
  · intro h
    have hpercent : '%' ∉ escape name := not_mem_of_lowerAscii hsmall h (by decide)
    obtain ⟨rest, hname, hrest⟩ := exists_of_escape_eq_append hpercent (List.append_nil _).symm
    rw [escape_eq_nil_iff.mp hrest, List.append_nil] at hname
    rwa [← hname] at h
  · intro h
    rwa [escape_eq_self fun c hc => isPlain_of_isAlpha (isAlpha_of_lowerAscii hsmall h c hc)]

theorem hasScheme_escape_iff (text : Text) :
    HasScheme scheme (escape text) ↔ HasScheme scheme text := by
  by_cases hmem : ':' ∈ text
  · obtain ⟨name, rest, rfl, hname⟩ := List.eq_append_cons_of_mem hmem
    have hescaped : ':' ∉ escape name := fun h => hname (mem_of_mem_escape (by decide) (by decide) h)
    rw [escape_append_mark (by decide) (by decide), hasScheme_append_colon hsmall hescaped,
      hasScheme_append_colon hsmall hname, lowerAscii_escape_eq_iff hsmall]
  · have hescaped : ':' ∉ escape text := fun h => hmem (mem_of_mem_escape (by decide) (by decide) h)
    exact iff_of_false (fun h => hescaped (colon_mem_of_hasScheme h)) fun h => hmem (colon_mem_of_hasScheme h)

/-- **Schemes and normal forms.** The normal form of a link begins with a scheme exactly if the link
itself does, without the blanks around it. -/
theorem hasScheme_normalize_iff (hne : scheme ≠ []) (url : Text) :
    HasScheme scheme (normalize url) ↔ HasScheme scheme (Text.strip url) := by
  by_cases hhost : (Parts.read url).MayHaveHost
  · obtain ⟨protocol, slashes, rest, hopening⟩ := Parts.exists_isOpening url
    have hnormal : normalize url =
        escape protocol ++ Parts.slashText slashes ++ (Parts.read url).recoded.escaped.behind := by
      rw [normalize_eq, Parts.write_eq]
      rw [Parts.recoded_eq, ← hopening.read_opening.1, ← hopening.read_opening.2]
      rfl
    rw [hnormal, hopening.strip_eq]
    rcases hopening.isProtocol with rfl | ⟨name, rfl, -, hname⟩
    · -- without a protocol both texts begin with slashes
      have hslashes : slashes = true := by
        simpa using Parts.ne_nil_of_mayHaveHost (hopening.mayHaveHost_iff.mp hhost)
      rw [hslashes]
      exact iff_of_false (not_hasScheme_slash hsmall hne _) (not_hasScheme_slash hsmall hne _)
    · have hcolon : ':' ∉ name := fun h => Parts.ne_colon_of_isProtocolChar (hname _ h) rfl
      have hescaped : ':' ∉ escape name :=
        fun h => hcolon (mem_of_mem_escape (by decide) (by decide) h)
      rw [escape_append_mark (by decide) (by decide)]
      simp only [List.append_assoc, List.cons_append]
      rw [hasScheme_append_colon hsmall hescaped, hasScheme_append_colon hsmall hcolon,
        lowerAscii_escape_eq_iff hsmall]
  · rw [normalize_of_no_host hhost, hasScheme_escape_iff hsmall]

end

end BraceLink.Url
