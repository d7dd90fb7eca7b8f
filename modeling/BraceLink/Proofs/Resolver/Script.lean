import BraceLink.Proofs.Resolver.Classes
import BraceLink.Proofs.Url.Scheme

/-!
# Schemes of the links in records

Ordinary Markdown refuses links whose scheme is one of `scriptSchemes`. The handler of links by address asks for
a scheme of the web, so none of its records has such a link. A mention takes the third part of its payload as
its link and asks nothing of it: `script_iff_of_record` says that this is the only way for such a scheme to get
into a record, and that it always works.
-/

namespace BraceLink

/-! ### Schemes -/

namespace Url

/-- The schemes that a link in ordinary Markdown may not have. -/
def scriptSchemes : List Text := ["javascript", "vbscript", "data", "file"]

def HasScriptScheme (url : Text) : Prop := ∃ scheme ∈ scriptSchemes, HasScheme scheme url

instance (url : Text) : Decidable (HasScriptScheme url) :=
  inferInstanceAs (Decidable (∃ scheme ∈ scriptSchemes, HasScheme scheme url))

theorem of_mem_scriptSchemes : ∀ scheme ∈ scriptSchemes, scheme ≠ [] ∧ ∀ c ∈ scheme, c.isLower = true := by
  simp [scriptSchemes]

theorem hasScriptScheme_normalize_iff (url : Text) :
    HasScriptScheme (normalize url) ↔ HasScriptScheme (Text.strip url) := by
  refine exists_congr fun scheme => and_congr_right fun hscheme => ?_
  obtain ⟨hne, hsmall⟩ := of_mem_scriptSchemes scheme hscheme
  exact hasScheme_normalize_iff hsmall hne url

theorem IsWebUrl.not_hasScriptScheme {url : Text} (h : IsWebUrl url) : ¬ HasScriptScheme url := by
  obtain ⟨protocol, hprotocol, rest, rfl⟩ := h
  rintro ⟨scheme, hscheme, hurl⟩
  have hsmall := (of_mem_scriptSchemes scheme hscheme).2
  have hname : ∃ name : Text, ':' ∉ name ∧ name ∉ scriptSchemes ∧ protocol = name ++ [':'] ∧
      Text.lowerAscii name = name := by
    rcases hprotocol with rfl | rfl
    · exact ⟨"http", by decide⟩
    · exact ⟨"https", by decide⟩
  obtain ⟨name, hcolon, hweb, rfl, hlower⟩ := hname
  rw [List.append_assoc, List.append_assoc, List.singleton_append, hasScheme_append_colon hsmall hcolon,
    hlower] at hurl
  rw [hurl] at hweb
  exact hweb hscheme

theorem not_hasScriptScheme_nil : ¬ HasScriptScheme [] := by
  rintro ⟨scheme, -, hurl⟩
  exact List.not_mem_nil (colon_mem_of_hasScheme hurl)

end Url

/-! ### Records without settings -/

namespace Resolver

/-- The default chain without any settings. -/
def plain : Resolver := ⟨{}, defaultHandlers {}, Url.normalize⟩

theorem build_plain {registry : Registry} (hdefaults : registry.HasDefaults) :
    build registry {} = .ok plain :=
  build_default hdefaults rfl Url.normalize

theorem isBuiltin_of_mem_plain : ∀ handler ∈ plain.handlers, handler.IsBuiltin := fun _ =>
  isBuiltin_of_mem_defaultHandlers

theorem plain_link (draft : Draft) : (plain.complete draft).link = Url.normalize draft.link :=
  complete_link isBuiltin_of_mem_plain draft

variable {payload : Text} {record : Record}

/-- Without settings no user of a platform is known, so a record is that of an address or of a mention of
GitHub. -/
theorem wonBy_plain (h : plain.resolve payload = .ok (some record)) :
    plain.WonBy (Handler.named []) payload ∨ plain.WonBy Handler.github payload := by
  obtain ⟨handler, hmem, draft, hdraft, hwon, -, -⟩ := exists_wonBy h
  simp only [plain, defaultHandlers, List.mem_cons, List.not_mem_nil, or_false] at hmem
  rcases hmem with rfl | rfl | rfl
  · exact Or.inl hwon
  · obtain ⟨_, _, _, -, -, -, hprofile, -⟩ := platform_draft hdraft
    cases hprofile
  · exact Or.inr hwon

/-- Without settings there are two categories, and a record has no classes but the general ones. -/
theorem plain_kind (h : plain.resolve payload = .ok (some record)) :
    (record.kind = Handler.namedKind ∨ record.kind = Handler.githubKind) ∧
      record.classes = [Link.generalClass, Link.generalClass ++ '-' :: record.kind] := by
  refine ⟨?_, classes_of_resolve rfl h⟩
  rcases wonBy_plain h with hnamed | hgithub
  · obtain ⟨draft, hdraft, rfl⟩ := hnamed.exists_draft h
    obtain ⟨-, -, hkind, -, -⟩ := named_draft hdraft
    rw [complete_kind isBuiltin_of_mem_plain, Draft.fill_kind, hkind]
    exact Or.inl rfl
  · obtain ⟨draft, hdraft, rfl⟩ := hgithub.exists_draft h
    obtain ⟨login, -, rfl⟩ := github_draft hdraft
    rw [complete_kind isBuiltin_of_mem_plain]
    exact Or.inr rfl

theorem WonBy.named_link (hwon : plain.WonBy (Handler.named []) payload)
    (h : plain.resolve payload = .ok (some record)) : Url.IsWebUrl record.link := by
  obtain ⟨draft, hdraft, rfl⟩ := hwon.exists_draft h
  obtain ⟨hhost, hlink, -, -⟩ := named_draft hdraft
  rw [plain_link, hlink]
  exact (Url.hasHost_normalize (hasWebHost_iff_isWebUrl.mp hhost).1).1

theorem wonBy_github (hhost : ¬ HasWebHost (address [] payload)) (h : plain.resolve payload = .ok (some record)) :
    plain.WonBy Handler.github payload := by
  refine (wonBy_plain h).resolve_left fun hnamed => ?_
  obtain ⟨draft, hdraft, -⟩ := hnamed.exists_draft h
  exact hhost (named_draft hdraft).1

theorem isWebUrl_profileUrl (login : Text) : Url.IsWebUrl (Handler.profileUrl login) :=
  ⟨_, Or.inr rfl, ("github.com/" : String).toList ++ login, rfl⟩

theorem WonBy.github_link (hwon : plain.WonBy Handler.github payload)
    (h : plain.resolve payload = .ok (some record)) :
    if Payload.part 2 payload = [] then Url.IsWebUrl record.link
    else record.link = Url.normalize (Payload.part 2 payload) := by
  obtain ⟨draft, hdraft, rfl⟩ := hwon.exists_draft h
  obtain ⟨login, -, rfl⟩ := github_draft hdraft
  rw [plain_link]
  dsimp only
  rw [Payload.firstNonEmpty_one]
  split_ifs with hpart
  · exact (Url.hasHost_normalize (isWebUrl_profileUrl login)).1
  · rfl

end Resolver

/-! ### Script schemes -/

/-- **Which records link to a script.** Without settings, the link of a record has a script scheme exactly if
the payload is a mention of GitHub whose third part has it: such a part is the link, in normal form. Every other
record has a link of the web. -/
theorem script_iff_of_record (registry : Registry) (hdefaults : registry.HasDefaults) :
    ∃ resolver, Resolver.build registry {} = .ok resolver ∧ ∀ payload record,
      resolver.resolve payload = .ok (some record) →
        (Url.HasScriptScheme record.link ↔
          resolver.WonBy Handler.github payload ∧ Url.HasScriptScheme (Payload.part 2 payload)) ∧
        (resolver.WonBy Handler.github payload → Payload.part 2 payload ≠ [] →
          record.link = Url.normalize (Payload.part 2 payload)) ∧
        (resolver.WonBy (Handler.named []) payload ∨ Payload.part 2 payload = [] → Url.IsWebUrl record.link) := by
  refine ⟨_, Resolver.build_plain hdefaults, fun payload record hresolve => ?_⟩
  have hmention : Resolver.plain.WonBy Handler.github payload → Payload.part 2 payload ≠ [] →
      record.link = Url.normalize (Payload.part 2 payload) := fun hgithub hpart => by
    simpa only [if_neg hpart] using hgithub.github_link hresolve
  have hweb : Resolver.plain.WonBy (Handler.named []) payload ∨ Payload.part 2 payload = [] →
      Url.IsWebUrl record.link := by
    rintro (hnamed | hpart)
    · exact hnamed.named_link hresolve
    · rcases Resolver.wonBy_plain hresolve with hnamed | hgithub
      · exact hnamed.named_link hresolve
      · simpa only [if_pos hpart] using hgithub.github_link hresolve
  have hscript : Resolver.plain.WonBy Handler.github payload → Payload.part 2 payload ≠ [] →
      (Url.HasScriptScheme record.link ↔ Url.HasScriptScheme (Payload.part 2 payload)) := by
    intro hgithub hpart
    rw [hmention hgithub hpart, Url.hasScriptScheme_normalize_iff, Payload.strip_part]
  refine ⟨⟨fun hlink => ?_, fun ⟨hgithub, hpart⟩ => ?_⟩, hmention, hweb⟩
  · have hgithub : Resolver.plain.WonBy Handler.github payload :=
      (Resolver.wonBy_plain hresolve).resolve_left fun hnamed =>
        (hweb (Or.inl hnamed)).not_hasScriptScheme hlink
    have hpart : Payload.part 2 payload ≠ [] := fun hnil =>
      (hweb (Or.inr hnil)).not_hasScriptScheme hlink
    exact ⟨hgithub, (hscript hgithub hpart).mp hlink⟩
  · have hne : Payload.part 2 payload ≠ [] := fun hnil =>
      Url.not_hasScriptScheme_nil (hnil ▸ hpart)
    exact (hscript hgithub hne).mpr hpart

/-- A mention that links elsewhere, to no script. -/
theorem script_iff_of_mention :
    Registry.builtin.HasDefaults ∧
    ∃ resolver record, Resolver.build Registry.builtin {} = .ok resolver ∧
      resolver.resolve "@a|b|ftp://c.d/javascript:" = .ok (some record) ∧
      record.link = Url.normalize "ftp://c.d/javascript:" ∧ ¬ Url.HasScriptScheme record.link := by
  obtain ⟨resolver, hbuild, hrecords⟩ := script_iff_of_record Registry.builtin Registry.builtin_hasDefaults
  cases hbuild
  obtain ⟨hscript, hlink, -⟩ := hrecords "@a|b|ftp://c.d/javascript:" _ rfl
  have hwon : Resolver.plain.WonBy Handler.github "@a|b|ftp://c.d/javascript:" :=
    Resolver.wonBy_github (by rw [hasWebHost_iff]; decide) rfl
  refine ⟨Registry.builtin_hasDefaults, _, _, rfl, rfl, hlink hwon (by decide), ?_⟩
  rw [hscript, not_and]
  exact fun _ => by decide

/-- A mention without a login, with a script in the place of its link. -/
theorem script_of_mention :
    Registry.builtin.HasDefaults ∧
    ∃ resolver record, Resolver.build Registry.builtin {} = .ok resolver ∧
      resolver.resolve "@||JavaScript:x" = .ok (some record) ∧ record.link = "JavaScript:x" ∧
      Url.HasScriptScheme record.link :=
  ⟨Registry.builtin_hasDefaults, _, _, rfl, rfl, by decide, by decide⟩

end BraceLink
