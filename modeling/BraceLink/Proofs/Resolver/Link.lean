import BraceLink.Proofs.Handler.GitHub
import BraceLink.Proofs.Resolver.Dispatch
import BraceLink.Proofs.Resolver.Record
import BraceLink.Proofs.Url.Host

/-!
# The links of records

The link of a record is the normal form of what its handler asked for (`Resolver.complete_link`). So what a
second pass does to it is a question about normal forms (`normalize_resolved_link`), and so is the host that
its icon is looked up for (`host_of_named_record`).

The handler of links asks for a host as well, but in the address before it is normalised. An address without
a host is not answered (`named_draft`). One with a host keeps it if its parts do (`Url.hasHost_normalize`).
-/

namespace BraceLink

/-! ### Normalising a link again -/

/-- **Links that are not changed any more.** With built-in handlers, the link of a record is the normal form of
the target in the draft. Normalising it again changes nothing if the target has no host, or one that is read
as it is written. In general, a link without brackets stays as it is exactly if its parts, read and written
again, are the link. -/
theorem normalize_resolved_link (registry : Registry) (settings : Settings)
    (hbuiltin : registry.BuildsBuiltin settings) :
    ∃ resolver, Resolver.build registry settings = .ok resolver ∧ ∀ payload record,
      resolver.resolve payload = .ok (some record) →
        ∃ draft, resolver.parse payload = .ok (some draft) ∧ record.link = Url.normalize draft.link ∧
          (((Url.Parts.read draft.link).MayHaveHost → (Url.Parts.read draft.link).recoded.IsRegular) →
            Url.normalize record.link = record.link) ∧
          ('[' ∉ record.link → (Url.normalize record.link = record.link ↔
            (Url.Parts.read record.link).write = record.link)) := by
  obtain ⟨handlers, hhandlers, hbuild⟩ := hbuiltin.exists_resolver Url.normalize
  refine ⟨_, hbuild, fun payload record hresolve => ?_⟩
  obtain ⟨-, -, draft, -, -, hparse, rfl⟩ := Resolver.exists_wonBy hresolve
  have hlink : (Resolver.complete ⟨settings, handlers, Url.normalize⟩ draft).link = Url.normalize draft.link :=
    Resolver.complete_link hhandlers draft
  refine ⟨draft, hparse, hlink, fun hregular => ?_, fun hbrackets => ?_⟩
  · rw [hlink]
    exact Url.normalize_normalize hregular
  · rw [hlink] at hbrackets ⊢
    exact Eq.congr_left (Url.normalize_normalize_eq_write hbrackets)

/-- A link with a space, which is escaped once. -/
theorem normalize_resolved_link_space :
    Registry.builtin.BuildsBuiltin {} ∧
    ∃ resolver record, Resolver.build Registry.builtin {} = .ok resolver ∧
      resolver.resolve "https://a.b/c d" = .ok (some record) ∧ record.link = "https://a.b/c%20d" ∧
      Url.normalize record.link = record.link := by
  have hbuilds : Registry.builtin.BuildsBuiltin {} := Registry.builtin_hasDefaults.buildsBuiltin rfl
  obtain ⟨resolver, hbuild, hlinks⟩ := normalize_resolved_link Registry.builtin {} hbuilds
  cases hbuild
  obtain ⟨draft, hparse, hlink, hregular, -⟩ := hlinks "https://a.b/c d" _ rfl
  cases hparse
  refine ⟨hbuilds, _, _, rfl, rfl, by decide, hregular fun _ => ⟨?_, ?_, ?_, ?_⟩⟩
  · exact List.all_eq_true.mp (by decide)
  · rw [Url.Parts.HasRegularName]
    decide
  · exact Or.inl (by rintro c ⟨⟩; decide)
  · intro hslashes
    exact absurd hslashes (by decide)

/-- Of three colons behind a host, each pass drops one. -/
theorem normalize_resolved_link_colons :
    Registry.builtin.BuildsBuiltin {} ∧
    ∃ resolver record, Resolver.build Registry.builtin {} = .ok resolver ∧
      resolver.resolve "http://a:::" = .ok (some record) ∧ record.link = "http://a::" ∧
      Url.normalize record.link = "http://a:" := by
  have hbuilds : Registry.builtin.BuildsBuiltin {} := Registry.builtin_hasDefaults.buildsBuiltin rfl
  exact ⟨hbuilds, _, _, rfl, rfl, by decide, by decide⟩

/-! ### The host of a link by address or by name -/

theorem hasWebHost_iff_isWebUrl {url : Text} : HasWebHost url ↔ Url.IsWebUrl url ∧ Url.hasHost url = true := by
  rw [HasWebHost, Url.hasHost]
  refine and_congr ⟨?_, ?_⟩ ?_
  · rintro (h | h)
    · exact ⟨_, Or.inl rfl, h⟩
    · exact ⟨_, Or.inr rfl, h⟩
  · rintro ⟨protocol, rfl | rfl, h⟩
    · exact Or.inl h
    · exact Or.inr h
  · cases Url.host url with
    | error fault => simp
    | ok name => simp

theorem named_draft {links : Table Target} {payload : Text} {draft : Draft}
    (h : (Handler.named links).resolve payload = .ok (some draft)) :
    HasWebHost (address links payload) ∧ draft.link = address links payload ∧
      draft.kind = some Handler.namedKind ∧
      draft.text = some (if (Payload.part 0 payload).isEmpty then Link.withoutScheme (address links payload)
        else Payload.part 0 payload) ∧ draft.classes = [] := by
  have hdraft : Handler.namedDraft links payload = some draft := Except.ok.inj h
  simp only [Handler.namedDraft, firstNonEmpty_eq_address] at hdraft
  by_cases hhost : (Handler.isWebUrl (address links payload) && Url.hasHost (address links payload)) = true
  · rw [if_pos hhost] at hdraft
    obtain rfl := Option.some.inj hdraft
    exact ⟨(hasWebHost_iff _).mpr hhost, rfl, rfl, rfl, rfl⟩
  · rw [if_neg hhost] at hdraft
    cases hdraft

theorem host_of_githubLogin {link login : Text} (hweb : Url.IsWebUrl link)
    (hchars : ∀ c ∈ link, 0x20 < c.toNat) (hlogin : Handler.githubLogin? link = some login) :
    Url.host link = .ok "github.com" := by
  obtain ⟨protocol, hprotocol, after, rfl⟩ := hweb
  have hafter : Handler.withoutWebScheme (protocol ++ Url.Parts.slashText true ++ after) = after := by
    rcases hprotocol with rfl | rfl <;> rfl
  rw [Handler.githubLogin?, hafter, Option.bind_eq_some_iff] at hlogin
  obtain ⟨path, hpath, -⟩ := hlogin
  obtain rfl := Text.dropPrefix?_eq_some_iff.mp hpath
  have hauthority : Url.Parts.userZone (("github.com/" : String).toList ++ path) = ("github.com" : String).toList :=
    rfl
  rw [Url.host, Url.authority_web hprotocol hchars, hauthority]
  decide

theorem hasWebHost_of_githubLogin {link login : Text} (hweb : Url.IsWebUrl link)
    (hchars : ∀ c ∈ link, 0x20 < c.toNat) (hlogin : Handler.githubLogin? link = some login) :
    HasWebHost link := by
  refine hasWebHost_iff_isWebUrl.mpr ⟨hweb, ?_⟩
  rw [Url.hasHost, host_of_githubLogin hweb hchars hlogin]
  rfl

theorem favicon_eq_prefix_iff {url : Text} (hweb : Url.IsWebUrl url) :
    Link.favicon url = Link.faviconPrefix ↔ ¬ HasWebHost url := by
  rw [hasWebHost_iff_isWebUrl, and_iff_right hweb, Link.favicon, Url.hasHost]
  cases Url.host url with
  | error fault => simp
  | ok name => simp

section

variable {handlers : List Handler} {draft : Draft}

/-- The image of a link with a host is not the bare icon address, unless the draft gives just that. -/
theorem image_ne_faviconPrefix (hbuiltin : ∀ handler ∈ handlers, handler.IsBuiltin)
    (hweb : Url.IsWebUrl (Url.normalize draft.link)) (hhost : HasWebHost (Url.normalize draft.link))
    (hown : draft.image ≠ some Link.faviconPrefix) :
    (Chain.complete handlers Url.normalize draft).image ≠ Link.faviconPrefix := by
  rcases (Chain.redressed_correct hbuiltin (draft.fill Url.normalize)).image with himage | ⟨login, -, himage⟩
  · rw [Chain.complete, himage, Draft.fill_image]
    rcases orDefault_eq_or draft.image (Link.favicon (Url.normalize draft.link)) with ⟨hsome, -⟩ | hnone
    · exact fun hbare => hown (hbare ▸ hsome)
    · rw [hnone]
      exact fun hbare => (favicon_eq_prefix_iff hweb).mp hbare hhost
  · rw [Chain.complete, himage]
    exact fun hbare => Handler.not_faviconPrefix_avatarUrl login ⟨[], (List.append_nil _).trans hbare.symm⟩

/-- The image of a link that has lost its host is the bare icon address, unless the draft gives one. -/
theorem image_eq_faviconPrefix (hbuiltin : ∀ handler ∈ handlers, handler.IsBuiltin)
    (hweb : Url.IsWebUrl (Url.normalize draft.link)) (hhost : ¬ HasWebHost (Url.normalize draft.link))
    (hown : orDefault draft.image [] = []) :
    (Chain.complete handlers Url.normalize draft).image = Link.faviconPrefix := by
  have hlogin : ∀ login, login ≠ [] →
      Handler.githubLogin? (draft.fill Url.normalize).link ≠ some login := fun login _ hlogin =>
    hhost (hasWebHost_of_githubLogin hweb (fun _ hc => (Url.toNat_of_mem_normalize hc).1) hlogin)
  rw [Chain.complete, Chain.correct_eq_self hbuiltin hlogin, Draft.fill_image, orDefault_eq_default hown,
    favicon_eq_prefix_iff hweb]
  exact hhost

end

/-- **The host of a link by address or by name.** The link of such a record is a link of the web, with a host
name exactly if the parts of the address keep theirs. Unless a rule or the target itself gives an image, the image
is the bare icon address exactly if the link has lost its host name. -/
theorem host_of_named_record (registry : Registry) (settings : Settings)
    (hdefaults : registry.HasDefaults) (hchain : settings.chain = none) :
    ∃ resolver, Resolver.build registry settings = .ok resolver ∧ ∀ payload : Text,
      resolver.WonBy (Handler.named settings.links) payload →
        ∃ draft record, (Handler.named settings.links).resolve payload = .ok (some draft) ∧
          resolver.resolve payload = .ok (some record) ∧ Url.IsWebUrl record.link ∧
          (HasWebHost record.link ↔
            (Url.Parts.read (address settings.links payload)).recoded.KeepsHost) ∧
          (resolver.NoRuleFor record.link →
            (HasWebHost record.link → draft.image ≠ some Link.faviconPrefix →
              record.image ≠ Link.faviconPrefix) ∧
            (¬ HasWebHost record.link → orDefault draft.image [] = [] →
              record.image = Link.faviconPrefix)) := by
  refine ⟨_, Resolver.build_default hdefaults hchain Url.normalize, fun payload hwon => ?_⟩
  obtain ⟨draft, hdraft, -, hresolve⟩ := hwon
  have hbuiltin : ∀ handler ∈ Resolver.defaultHandlers settings, handler.IsBuiltin := fun _ =>
    Resolver.isBuiltin_of_mem_defaultHandlers
  obtain ⟨haddress, hlink, -, -⟩ := named_draft hdraft
  have hrecord : (Resolver.complete ⟨settings, Resolver.defaultHandlers settings, Url.normalize⟩ draft).link =
      Url.normalize draft.link := Resolver.complete_link hbuiltin draft
  obtain ⟨hweb, hkeeps⟩ := Url.hasHost_normalize (hasWebHost_iff_isWebUrl.mp haddress).1
  have hweb' : Url.IsWebUrl (Url.normalize draft.link) := hlink ▸ hweb
  refine ⟨draft, _, hdraft, hresolve, ?_, ?_, fun hrule => ?_⟩
  · rwa [hrecord]
  · rw [hrecord, hlink, hasWebHost_iff_isWebUrl, and_iff_right hweb, hkeeps]
  · rw [hrecord] at hrule ⊢
    rw [Resolver.complete_of_noRule hbuiltin draft hrule]
    exact ⟨image_ne_faviconPrefix hbuiltin hweb', image_eq_faviconPrefix hbuiltin hweb'⟩

/-- An address whose parts keep its host name. -/
theorem host_of_named_record_kept :
    Registry.builtin.HasDefaults ∧ ({} : Settings).chain = none ∧
    ∃ resolver record, Resolver.build Registry.builtin {} = .ok resolver ∧
      resolver.WonBy (Handler.named []) "https://a.b/c" ∧
      resolver.resolve "https://a.b/c" = .ok (some record) ∧ HasWebHost record.link ∧
      record.image ≠ Link.faviconPrefix := by
  obtain ⟨resolver, hbuild, hrecords⟩ :=
    host_of_named_record Registry.builtin {} Registry.builtin_hasDefaults rfl
  cases hbuild
  have hwon : Resolver.WonBy ⟨{}, Resolver.defaultHandlers {}, Url.normalize⟩ (Handler.named []) "https://a.b/c" :=
    Resolver.wonBy_of_declines [] rfl (by simp) (named_answers ((hasWebHost_iff _).mpr (by decide)))
  obtain ⟨draft, record, hdraft, hresolve, -, hhost, himage⟩ := hrecords "https://a.b/c" hwon
  cases hdraft
  have hkept := hhost.mpr (by rw [Url.Parts.KeepsHost]; decide)
  refine ⟨Registry.builtin_hasDefaults, rfl, _, record, rfl, hwon, hresolve, hkept, ?_⟩
  exact (himage (by rintro rule ⟨⟩)).1 hkept (by decide)

/-- A host name of which the parts keep nothing: its character is moved behind the port. -/
theorem host_of_named_record_lost :
    Registry.builtin.HasDefaults ∧ ({} : Settings).chain = none ∧
    ∃ resolver record, Resolver.build Registry.builtin {} = .ok resolver ∧
      resolver.WonBy (Handler.named []) "http://!:80" ∧
      resolver.resolve "http://!:80" = .ok (some record) ∧ record.link = "http://:80!" ∧
      ¬ HasWebHost record.link ∧ record.image = Link.faviconPrefix := by
  have hwon : Resolver.WonBy ⟨{}, Resolver.defaultHandlers {}, Url.normalize⟩ (Handler.named []) "http://!:80" :=
    Resolver.wonBy_of_declines [] rfl (by simp) (named_answers ((hasWebHost_iff _).mpr (by decide)))
  refine ⟨Registry.builtin_hasDefaults, rfl, _, _, rfl, hwon, rfl, by decide, ?_, by decide⟩
  rw [hasWebHost_iff]
  decide

end BraceLink
