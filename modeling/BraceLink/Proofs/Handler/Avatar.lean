import BraceLink.Proofs.Handler.GitHub
import BraceLink.Proofs.Url.Host
import Mathlib.Data.Bool.AllAny

/-!
# Avatars for plain links to GitHub

The handler of GitHub mentions looks at every record of a chain. `avatar_of_record` says which records it
corrects and what it makes of them: those that show the icon of a site although their link leads to the page
of a login (`LacksAvatar`). The login is the whole run of login characters behind `github.com/`, so there is
only one (`LeadsTo.unique`). A link with a scheme leads there only if its host is that of GitHub
(`LeadsTo.host`): no other site gets an avatar because its address looks alike.
-/

namespace BraceLink.Handler

theorem host_of_github {protocol path : Text} (hprotocol : Url.IsWebProtocol protocol)
    (hpath : path.head? = some '/') :
    Url.host (protocol ++ Url.Parts.slashText true ++ ("github.com" : String).toList ++ path) =
      .ok "github.com" := by
  rw [Url.host, Url.authority_of_name hprotocol (List.all_iff_forall_prop.mp (by decide)) hpath]
  decide

section

variable {link login : Text}

theorem LeadsTo.unique {other : Text} (h : LeadsTo link login) (hother : LeadsTo link other) :
    other = login := by
  have hsame := githubLogin?_eq_some_iff.mpr h
  rw [githubLogin?_eq_some_iff.mpr hother] at hsame
  exact Option.some.inj hsame

theorem LeadsTo.host (h : LeadsTo link login) (hweb : Url.IsWebUrl link) :
    Url.host link = .ok "github.com" := by
  obtain ⟨scheme, tail, hscheme, rfl, -, -⟩ := h
  have hsplit : ∀ protocol : Text, protocol ++ Url.Parts.slashText true ++
      (("github.com/" : String).toList ++ (login ++ tail)) =
        protocol ++ Url.Parts.slashText true ++ ("github.com" : String).toList ++ ('/' :: (login ++ tail)) := by
    intro protocol
    simp
  rcases hscheme with rfl | rfl | rfl
  · -- without a scheme the link begins with a letter that no scheme of the web begins with
    have hletter : some 'h' = some 'g' := by
      obtain ⟨protocol, rfl | rfl, _, hlink⟩ := hweb
      · exact congrArg List.head? hlink
      · exact congrArg List.head? hlink
    cases hletter
  · exact (congrArg Url.host (hsplit "http:")).trans (host_of_github (Or.inl rfl) rfl)
  · exact (congrArg Url.host (hsplit "https:")).trans (host_of_github (Or.inr rfl) rfl)

end

/-- **Which records get an avatar.** A record is corrected exactly if its category is not that of GitHub
mentions, it shows the icon of a site, and its link leads to the page of a login that is no route of the site;
the login is the only one that the link leads to. All that is changed is the image, which is the avatar of the
login. A record that has been corrected is left alone. If the link of a corrected record has a scheme, its host
is that of GitHub. -/
theorem avatar_of_record (reserved : List Text) (record : Record) :
    (∀ after, (github reserved).postprocess record = some after ↔
      ∃ login, LacksAvatar reserved record login ∧ after = { record with image := avatarUrl login }) ∧
    (∀ login other, LeadsTo record.link login → LeadsTo record.link other → other = login) ∧
    ∀ after, (github reserved).postprocess record = some after →
      (github reserved).postprocess after = none ∧
        (Url.IsWebUrl record.link → Url.host record.link = .ok "github.com") := by
  have hiff : ∀ after, (github reserved).postprocess record = some after ↔
      ∃ login, LacksAvatar reserved record login ∧ after = { record with image := avatarUrl login } :=
    fun _ => repairAvatar_eq_some_iff
  refine ⟨hiff, fun login other hlogin hother => hlogin.unique hother, fun after hafter => ?_⟩
  obtain ⟨login, hlacks, rfl⟩ := (hiff after).mp hafter
  exact ⟨repairAvatar_avatarUrl reserved record login, hlacks.link.host⟩

/-- A link to a repository, and the same address on a site whose name only begins like that of GitHub. -/
theorem avatar_of_record_repository :
    ∃ record after : Record, record.link = "https://github.com/a-b_1/c?d" ∧
      (github reservedRoutes).postprocess record = some after ∧ after.image = "https://github.com/a-b_1.png" ∧
      (github reservedRoutes).postprocess after = none ∧ Url.host record.link = .ok "github.com" ∧
      (github reservedRoutes).postprocess { record with link := "https://github.com.e/a-b_1" } = none := by
  let record : Record :=
    ⟨"c", "https://github.com/a-b_1/c?d", "link", [], "https://favicon.yandex.net/favicon/github.com"⟩
  obtain ⟨hiff, -, hcorrected⟩ := avatar_of_record reservedRoutes record
  have hlacks : LacksAvatar reservedRoutes record "a-b_1" :=
    { kind := by decide
      link := ⟨"https://", "/c?d", Or.inr (Or.inr rfl), rfl, List.all_eq_true.mp rfl, Or.inr (Or.inr rfl)⟩
      ne_nil := by decide
      free := by decide
      icon := by decide }
  have hafter := (hiff _).mpr ⟨_, hlacks, rfl⟩
  obtain ⟨hnone, hhost⟩ := hcorrected _ hafter
  exact ⟨record, _, rfl, hafter, rfl, hnone, hhost ⟨_, Or.inr rfl, by decide⟩, by decide⟩

end BraceLink.Handler
