import BraceLink.Proofs.Resolver.Link
import BraceLink.Proofs.Settings.Plain

/-!
# Records with nothing missing

A draft may leave out everything but its link, and each field has a default of its own. Categories and images
have defaults that are never empty (`fill_kind_ne_nil`, `fill_image_ne_nil`), and so are the images that
handlers and rules put in their place (`Resolver.complete_image_ne_nil`).

The default of the text is the link without its scheme, and the link has none. Whether these are empty depends
on the handler: a link by address or by name has both (`named_fill_ne_nil`), a mention of a platform has a
text (`platform_fill_text_ne_nil`), a mention of GitHub has a link (`github_fill_link_ne_nil`). The other two
fields are decided exactly (`platform_fill_link_eq_nil_iff`, `github_fill_text_eq_nil_iff`), and
`record_complete` puts the five together.
-/

namespace BraceLink

/-! ### Texts that are not empty -/

theorem Text.upper_ne_nil {text : Text} (h : text ≠ []) : Text.upper text ≠ [] := by
  obtain ⟨c, rest, rfl⟩ := List.exists_cons_of_ne_nil h
  have hchar : Text.upperChar c ≠ [] := by
    unfold Text.upperChar
    split_ifs
    · simp
    · split
      · rename_i capitals hcapitals
        have hexpansions : ∀ entry ∈ Text.uppercaseExpansions, entry.2 ≠ [] := by decide
        have hmem : (c.toNat, capitals) ∈ Text.uppercaseExpansions := by
          obtain ⟨before, after, hsplit, -⟩ := List.lookup_eq_some_iff.mp hcapitals
          rw [hsplit]
          simp
        simpa using hexpansions _ hmem
      · simp
  simp [Text.upper, hchar]

theorem Payload.strip_part (index : Nat) (payload : Text) :
    Text.strip (Payload.part index payload) = Payload.part index payload := by
  rw [Payload.part, List.getD_eq_getElem?_getD]
  cases hpart : (Payload.parts payload)[index]? with
  | none => rfl
  | some part =>
    obtain ⟨piece, -, rfl⟩ := List.mem_map.mp (List.mem_of_getElem? hpart)
    exact Text.strip_strip piece

theorem Payload.firstNonEmpty_one (text last : Text) :
    Payload.firstNonEmpty [text] last = if text = [] then last else text := by
  cases text <;> rfl

theorem HasWebHost.withoutScheme_ne_nil {url : Text} (h : HasWebHost url) : Link.withoutScheme url ≠ [] := by
  obtain ⟨⟨protocol, hprotocol, rest, rfl⟩, hhost⟩ := hasWebHost_iff_isWebUrl.mp h
  have hrest : Link.withoutScheme (protocol ++ Url.Parts.slashText true ++ rest) = rest := by
    rcases hprotocol with rfl | rfl <;> rfl
  rw [hrest]
  rintro rfl
  rcases hprotocol with rfl | rfl
  · exact absurd hhost (by decide)
  · exact absurd hhost (by decide)

theorem HasWebHost.strip_ne_nil {url : Text} (h : HasWebHost url) : Text.strip url ≠ [] := by
  obtain ⟨⟨protocol, hprotocol, rest, rfl⟩, -⟩ := hasWebHost_iff_isWebUrl.mp h
  intro hnil
  have hblank := Text.strip_eq_nil_iff.mp hnil 'h'
  rcases hprotocol with rfl | rfl
  · exact absurd (hblank (by simp)) (by decide)
  · exact absurd (hblank (by simp)) (by decide)

/-! ### The drafts of mentions -/

section

variable {payload : Text} {draft : Draft}

theorem part_of_mention? {mention : Text} (h : Handler.mention? payload = some mention) :
    Payload.part 0 payload = '@' :: mention := by
  unfold Handler.mention? at h
  split at h
  · rename_i other hpart
    rw [hpart, Option.some.inj h]
  · cases h

theorem mention_inj {platform user platform' user' : Text}
    (h : '@' :: (platform ++ ':' :: user) = '@' :: (platform' ++ ':' :: user'))
    (hcolon : ':' ∉ platform) (hcolon' : ':' ∉ platform') : platform = platform' ∧ user = user' := by
  have hcut := Text.cut_of_mem hcolon user
  rw [(List.cons.inj h).2, Text.cut_of_mem hcolon'] at hcut
  cases hcut
  exact ⟨rfl, rfl⟩

theorem platform_draft {platforms : Table (Table Profile)}
    (h : (Handler.platform platforms).resolve payload = .ok (some draft)) :
    ∃ platform user profile, Payload.part 0 payload = '@' :: (platform ++ ':' :: user) ∧ ':' ∉ platform ∧
      user ≠ [] ∧ Handler.profile? platforms platform user = some profile ∧
      draft =
        { link := Payload.firstNonEmpty [Payload.part 2 payload] profile.link
          text := some (Payload.firstNonEmpty [Payload.part 1 payload, profile.displayName.getD []]
            (Text.upper user))
          kind := some (platform ++ "-at")
          image := some profile.avatar } := by
  have hdraft : Handler.platformDraft platforms payload = some draft := Except.ok.inj h
  unfold Handler.platformDraft at hdraft
  split at hdraft
  · cases hdraft
  · rename_i mention hmention
    split at hdraft
    · cases hdraft
    · rename_i platform user hcut
      split_ifs at hdraft with hempty
      obtain ⟨profile, hprofile, rfl⟩ := Option.map_eq_some_iff.mp hdraft
      simp only [Bool.or_eq_true, List.isEmpty_iff, not_or] at hempty
      obtain ⟨rfl, hcolon⟩ := Text.of_cut_eq_some hcut
      exact ⟨platform, user, profile, part_of_mention? hmention, hcolon, hempty.2, hprofile, rfl⟩

/-- What the handler of GitHub mentions makes of a payload that it answers. -/
theorem github_draft {reserved : List Text}
    (h : (Handler.github reserved).resolve payload = .ok (some draft)) :
    ∃ login, Payload.part 0 payload = '@' :: login ∧
      draft =
        { link := Payload.firstNonEmpty [Payload.part 2 payload] (Handler.profileUrl login)
          text := some (Payload.firstNonEmpty [Payload.part 1 payload] (Text.upper login))
          kind := some Handler.githubKind
          image := some (Handler.avatarUrl login) } := by
  have hdraft : Handler.githubDraft payload = some draft := Except.ok.inj h
  unfold Handler.githubDraft at hdraft
  split at hdraft
  · cases hdraft
  · rename_i login hlogin
    split_ifs at hdraft
    obtain rfl := Option.some.inj hdraft
    exact ⟨login, part_of_mention? hlogin, rfl⟩

end

/-! ### Fields that are never empty -/

theorem favicon_ne_nil (url : Text) : Link.favicon url ≠ [] :=
  List.append_ne_nil_of_left_ne_nil (by decide) _

theorem profileUrl_ne_nil (login : Text) : Handler.profileUrl login ≠ [] :=
  List.append_ne_nil_of_left_ne_nil (by decide) _

theorem avatarUrl_ne_nil (login : Text) : Handler.avatarUrl login ≠ [] :=
  List.append_ne_nil_of_left_ne_nil (profileUrl_ne_nil login) _

theorem orDefault_ne_nil {own : Option Text} {default : Text} (h : default ≠ []) : orDefault own default ≠ [] := by
  rcases orDefault_eq_or own default with ⟨-, hown⟩ | hdefault
  · exact hown
  · rwa [hdefault]

theorem fill_kind_ne_nil (normalize : Text → Text) (draft : Draft) : (draft.fill normalize).kind ≠ [] :=
  orDefault_ne_nil (by decide)

theorem fill_image_ne_nil (normalize : Text → Text) (draft : Draft) : (draft.fill normalize).image ≠ [] :=
  orDefault_ne_nil (favicon_ne_nil _)

theorem Resolver.complete_image_ne_nil {resolver : Resolver}
    (hbuiltin : ∀ handler ∈ resolver.handlers, handler.IsBuiltin)
    (hrules : ∀ rule ∈ resolver.settings.rules, rule.image ≠ []) (draft : Draft) :
    (resolver.complete draft).image ≠ [] := by
  rcases Resolver.complete_image hbuiltin draft with ⟨rule, hrule, himage⟩ | ⟨login, -, himage⟩ | himage
  · rw [himage]
    exact hrules rule hrule
  · rw [himage]
    exact avatarUrl_ne_nil login
  · rw [himage]
    exact fill_image_ne_nil _ _

/-! ### Texts and links of drafts -/

theorem orDefault_some {own : Text} (h : own ≠ []) (default : Text) : orDefault (some own) default = own := by
  obtain ⟨c, rest, rfl⟩ := List.exists_cons_of_ne_nil h
  rfl

theorem Payload.firstNonEmpty_ne_nil {texts : List Text} {last : Text} (h : last ≠ []) :
    Payload.firstNonEmpty texts last ≠ [] := by
  rw [Payload.firstNonEmpty]
  cases hfind : texts.find? fun text => !text.isEmpty with
  | none => exact h
  | some text => simpa using List.find?_some hfind

/-- The link that a mention falls back to is used if the payload gives none. -/
theorem strip_mention_link {payload default : Text} :
    Text.strip (Payload.firstNonEmpty [Payload.part 2 payload] default) = [] ↔
      Payload.part 2 payload = [] ∧ Text.strip default = [] := by
  rw [Payload.firstNonEmpty_one]
  split_ifs with hpart
  · simp [hpart]
  · rw [Payload.strip_part]
    simp [hpart]

theorem strip_profileUrl_ne_nil (login : Text) : Text.strip (Handler.profileUrl login) ≠ [] := fun h => by
  have hblank := Text.strip_eq_nil_iff.mp h 'h' (List.mem_append_left _ (by decide))
  exact absurd hblank (by decide)

section

variable {payload : Text} {draft : Draft}

theorem named_fill_ne_nil {links : Table Target}
    (h : (Handler.named links).resolve payload = .ok (some draft)) :
    (draft.fill Url.normalize).text ≠ [] ∧ (draft.fill Url.normalize).link ≠ [] := by
  obtain ⟨hhost, hlink, -, htext, -⟩ := named_draft h
  constructor
  · have hown : (if (Payload.part 0 payload).isEmpty then Link.withoutScheme (address links payload)
        else Payload.part 0 payload) ≠ [] := by
      split_ifs with hpart
      · exact hhost.withoutScheme_ne_nil
      · simpa using hpart
    rw [Draft.fill_text, htext, orDefault_some hown]
    exact hown
  · rw [Draft.fill_link, ne_eq, Url.normalize_eq_nil_iff, hlink]
    exact hhost.strip_ne_nil

theorem platform_fill_text_ne_nil {platforms : Table (Table Profile)}
    (h : (Handler.platform platforms).resolve payload = .ok (some draft)) :
    (draft.fill Url.normalize).text ≠ [] := by
  obtain ⟨platform, user, profile, -, -, huser, -, rfl⟩ := platform_draft h
  have hown : Payload.firstNonEmpty [Payload.part 1 payload, profile.displayName.getD []]
      (Text.upper user) ≠ [] :=
    Payload.firstNonEmpty_ne_nil (Text.upper_ne_nil huser)
  rw [Draft.fill_text, orDefault_some hown]
  exact hown

/-- The link of a user is empty if the payload gives none and the configured one is blank. -/
theorem platform_fill_link_eq_nil_iff {platforms : Table (Table Profile)}
    (h : (Handler.platform platforms).resolve payload = .ok (some draft)) :
    (draft.fill Url.normalize).link = [] ↔
      Payload.part 2 payload = [] ∧ ∃ platform user profile,
        Payload.part 0 payload = '@' :: (platform ++ ':' :: user) ∧ ':' ∉ platform ∧
        Handler.profile? platforms platform user = some profile ∧ Text.strip profile.link = [] := by
  obtain ⟨platform, user, profile, hpart, hcolon, -, hprofile, rfl⟩ := platform_draft h
  rw [Draft.fill_link, Url.normalize_eq_nil_iff, strip_mention_link]
  refine and_congr_right fun _ => ⟨fun hblank => ?_, fun hother => ?_⟩
  · exact ⟨platform, user, profile, hpart, hcolon, hprofile, hblank⟩
  · obtain ⟨platform', user', profile', hpart', hcolon', hprofile', hblank⟩ := hother
    obtain ⟨rfl, rfl⟩ := mention_inj (hpart.symm.trans hpart') hcolon hcolon'
    rw [hprofile] at hprofile'
    cases hprofile'
    exact hblank

theorem github_fill_link_ne_nil {reserved : List Text}
    (h : (Handler.github reserved).resolve payload = .ok (some draft)) :
    (draft.fill Url.normalize).link ≠ [] := by
  obtain ⟨login, -, rfl⟩ := github_draft h
  rw [Draft.fill_link, ne_eq, Url.normalize_eq_nil_iff, strip_mention_link, not_and]
  exact fun _ => strip_profileUrl_ne_nil login

/-- A mention without a login and without a text shows what is left of its link without the scheme. -/
theorem github_fill_text_eq_nil_iff {reserved : List Text}
    (h : (Handler.github reserved).resolve payload = .ok (some draft)) :
    (draft.fill Url.normalize).text = [] ↔
      Payload.part 0 payload = "@" ∧ Payload.part 1 payload = [] ∧
        Link.withoutScheme (Url.normalize draft.link) = [] := by
  obtain ⟨login, hpart, rfl⟩ := github_draft h
  rw [Draft.fill_text]
  dsimp only
  rw [Payload.firstNonEmpty_one (Payload.part 1 payload), hpart]
  split_ifs with htext
  · by_cases hlogin : login = []
    · subst hlogin
      simp [htext, orDefault, Text.upper]
    · rw [orDefault_some (Text.upper_ne_nil hlogin)]
      simp [Text.upper_ne_nil hlogin, hlogin]
  · rw [orDefault_some htext]
    simp [htext]

end

/-! ### Complete records -/

/-- **Records with nothing missing.** With the default chain and rules from plain data, every record has a
category and an image. Its text is empty exactly for a mention without a login and without a text whose link is a
scheme and nothing else, and its link is empty exactly for a user whose configured link is blank. -/
theorem record_complete (registry : Registry) (settings : Settings) (hdefaults : registry.HasDefaults)
    (hchain : settings.chain = none) (hplain : settings.IsGivenPlain) :
    ∃ resolver, Resolver.build registry settings = .ok resolver ∧ ∀ payload record,
      resolver.resolve payload = .ok (some record) →
        record.kind ≠ [] ∧ record.image ≠ [] ∧
        (record.text = [] ↔ resolver.WonBy Handler.github payload ∧ Payload.part 0 payload = "@" ∧
          Payload.part 1 payload = [] ∧ Link.withoutScheme record.link = []) ∧
        (record.link = [] ↔ resolver.WonBy (Handler.platform settings.platforms) payload ∧
          Payload.part 2 payload = [] ∧ ∃ platform user profile,
            Payload.part 0 payload = '@' :: (platform ++ ':' :: user) ∧ ':' ∉ platform ∧
            Handler.profile? settings.platforms platform user = some profile ∧
            Text.strip profile.link = []) := by
  refine ⟨_, Resolver.build_default hdefaults hchain Url.normalize, fun payload record hresolve => ?_⟩
  have hbuiltin : ∀ handler ∈ Resolver.defaultHandlers settings, handler.IsBuiltin := fun _ =>
    Resolver.isBuiltin_of_mem_defaultHandlers
  obtain ⟨handler, hhandler, draft, hdraft, hwon, -, hrecord⟩ := Resolver.exists_wonBy hresolve
  simp only [Resolver.defaultHandlers, List.mem_cons, List.not_mem_nil, or_false] at hhandler
  refine ⟨?_, ?_, ⟨fun htext => ?_, ?_⟩, ⟨fun hlink => ?_, ?_⟩⟩
  · rw [hrecord, Resolver.complete_kind hbuiltin]
    exact fill_kind_ne_nil _ _
  · rw [hrecord]
    exact Resolver.complete_image_ne_nil hbuiltin hplain.image_ne_nil draft
  · rw [hrecord, Resolver.complete_text hbuiltin] at htext
    rcases hhandler with rfl | rfl | rfl
    · exact absurd htext (named_fill_ne_nil hdraft).1
    · exact absurd htext (platform_fill_text_ne_nil hdraft)
    · rw [hrecord, Resolver.complete_link hbuiltin]
      exact ⟨hwon, (github_fill_text_eq_nil_iff hdraft).mp htext⟩
  · rintro ⟨hgithub, hparts⟩
    obtain ⟨draft', hdraft', hrecord'⟩ := hgithub.exists_draft hresolve
    rw [hrecord', Resolver.complete_link hbuiltin] at hparts
    rw [hrecord', Resolver.complete_text hbuiltin]
    exact (github_fill_text_eq_nil_iff hdraft').mpr hparts
  · rw [hrecord, Resolver.complete_link hbuiltin] at hlink
    rcases hhandler with rfl | rfl | rfl
    · exact absurd hlink (named_fill_ne_nil hdraft).2
    · exact ⟨hwon, (platform_fill_link_eq_nil_iff hdraft).mp hlink⟩
    · exact absurd hlink (github_fill_link_ne_nil hdraft)
  · rintro ⟨hplatform, hparts⟩
    obtain ⟨draft', hdraft', hrecord'⟩ := hplatform.exists_draft hresolve
    rw [hrecord', Resolver.complete_link hbuiltin]
    exact (platform_fill_link_eq_nil_iff hdraft').mpr hparts

/-- Options with one user whose link is blank. -/
def blankSections : Settings.Sections :=
  { platforms := .map [(.text "x", .map [(.text "z",
      .map [(.text "link", .text " "), (.text "avatar_url", .text "a")])])] }

/-- The settings that these options give. -/
def blankSettings : Settings := { platforms := [("x", [("z", { link := " ", avatar := "a" })])] }

theorem blankSettings_isGivenPlain : blankSettings.IsGivenPlain :=
  .options blankSections (by decide) rfl

/-- A mention of a login, of which nothing is missing. -/
theorem record_complete_login :
    Registry.builtin.HasDefaults ∧ blankSettings.chain = none ∧ blankSettings.IsGivenPlain ∧
    ∃ resolver record, Resolver.build Registry.builtin blankSettings = .ok resolver ∧
      resolver.resolve "@a" = .ok (some record) ∧
      record.kind ≠ [] ∧ record.image ≠ [] ∧ record.text ≠ [] ∧ record.link ≠ [] := by
  obtain ⟨resolver, hbuild, hrecords⟩ := record_complete Registry.builtin blankSettings
    Registry.builtin_hasDefaults rfl blankSettings_isGivenPlain
  cases hbuild
  obtain ⟨hkind, himage, htext, hlink⟩ := hrecords "@a" _ rfl
  refine ⟨Registry.builtin_hasDefaults, rfl, blankSettings_isGivenPlain, _, _, rfl, rfl, hkind, himage, ?_, ?_⟩
  · rw [ne_eq, htext]
    rintro ⟨-, hpart, -⟩
    exact absurd hpart (by decide)
  · rw [ne_eq, hlink]
    rintro ⟨-, -, platform, user, -, hpart, -⟩
    have hcolon : ':' ∈ Payload.part 0 "@a" := by
      rw [hpart]
      simp
    exact absurd hcolon (by decide)

/-- A mention without a login that links to a bare scheme has no text, and a user with a blank link has no link. -/
theorem record_incomplete :
    Registry.builtin.HasDefaults ∧ blankSettings.chain = none ∧ blankSettings.IsGivenPlain ∧
    ∃ resolver mention user, Resolver.build Registry.builtin blankSettings = .ok resolver ∧
      resolver.resolve "@||http://" = .ok (some mention) ∧ mention.text = [] ∧
      resolver.resolve "@x:z" = .ok (some user) ∧ user.link = [] :=
  ⟨Registry.builtin_hasDefaults, rfl, blankSettings_isGivenPlain, _, _, _, rfl, rfl, by decide, rfl, by decide⟩

end BraceLink
