import BraceLink.Proofs.Handler.GitHub
import BraceLink.Proofs.Pattern.Search
import BraceLink.Proofs.Resolver.Record

/-!
# The image of a record

An image can come from five places: the handler that wins, the icon of the site, the avatar of a login, and
a rule. A rule comes before everything else (`ImageRule.apply_of_first`, `ImageRule.apply_of_none`). Without
one, the default chain gives a record that lacks an avatar that avatar, and leaves any other as it was filled
in (`Resolver.correct_defaultHandlers`). `image_precedence` puts both together.
-/

namespace BraceLink

/-! ### Rules -/

namespace ImageRule

variable {rules : List ImageRule} {record : Record}

theorem apply_of_first {before after : List ImageRule} {rule : ImageRule} (hrules : rules = before ++ rule :: after)
    (hbefore : ∀ other ∈ before, ¬ other.matcher.Matches record.link) (hrule : rule.matcher.Matches record.link) :
    apply rules record = { record with image := rule.image } := by
  have hfirst : first? rules record.link = some rule := by
    refine List.find?_eq_some_iff_append.mpr ⟨Matcher.holds_eq_true_iff.mpr hrule, before, after, hrules, ?_⟩
    intro other hother
    rw [Bool.not_eq_true', ← Bool.not_eq_true, Matcher.holds_eq_true_iff]
    exact hbefore other hother
  rw [apply, hfirst]

theorem apply_of_none (h : ∀ rule ∈ rules, ¬ rule.matcher.Matches record.link) : apply rules record = record := by
  have hnone : first? rules record.link = none := by
    refine List.find?_eq_none.mpr fun rule hrule => ?_
    rw [Matcher.holds_eq_true_iff]
    exact h rule hrule
  rw [apply, hnone]

end ImageRule

/-! ### Avatars -/

theorem Resolver.correct_defaultHandlers (settings : Settings) (record : Record) :
    (∀ login, Handler.LacksAvatar Handler.reservedRoutes record login →
      Chain.correct (defaultHandlers settings) record = { record with image := Handler.avatarUrl login }) ∧
    ((∀ login, ¬ Handler.LacksAvatar Handler.reservedRoutes record login) →
      Chain.correct (defaultHandlers settings) record = record) := by
  -- Of the three handlers only the one of mentions corrects records.
  have hlast : Chain.correct (defaultHandlers settings) record =
      (Handler.repairAvatar Handler.reservedRoutes record).getD record := rfl
  constructor
  · intro login hlacks
    rw [hlast, Handler.repairAvatar_eq_some_iff.mpr ⟨login, hlacks, rfl⟩, Option.getD_some]
  · intro hkept
    have hnone : Handler.repairAvatar Handler.reservedRoutes record = none := by
      refine Option.eq_none_iff_forall_ne_some.mpr fun after hafter => ?_
      obtain ⟨login, hlacks, -⟩ := Handler.repairAvatar_eq_some_iff.mp hafter
      exact hkept login hlacks
    rw [hlast, hnone, Option.getD_none]

/-! ### Precedence -/

section

variable {resolver : Resolver} (hhandlers : resolver.handlers = Resolver.defaultHandlers resolver.settings)
  (draft : Draft)

include hhandlers

/-- Rules are asked about the link after the corrections, which is the link that was filled in. -/
theorem Resolver.complete_default_link :
    (Chain.complete resolver.handlers resolver.normalize draft).link = (resolver.complete draft).link := by
  have hbuiltin : ∀ handler ∈ resolver.handlers, handler.IsBuiltin := fun handler hmem =>
    isBuiltin_of_mem_defaultHandlers (hhandlers ▸ hmem)
  rw [complete_link hbuiltin, Chain.complete,
    (Chain.redressed_correct hbuiltin (draft.fill resolver.normalize)).eq, Draft.fill_link]

theorem Resolver.complete_default_of_first {before after : List ImageRule} {rule : ImageRule}
    (hrules : resolver.settings.rules = before ++ rule :: after)
    (hbefore : ∀ other ∈ before, ¬ other.matcher.Matches (resolver.complete draft).link)
    (hrule : rule.matcher.Matches (resolver.complete draft).link) :
    (resolver.complete draft).image = rule.image := by
  rw [← complete_default_link hhandlers] at hbefore hrule
  rw [complete, ImageRule.apply_of_first hrules hbefore hrule]

theorem Resolver.complete_default_of_none
    (h : ∀ rule ∈ resolver.settings.rules, ¬ rule.matcher.Matches (resolver.complete draft).link) :
    (∀ login, Handler.LacksAvatar Handler.reservedRoutes (draft.fill resolver.normalize) login →
      (resolver.complete draft).image = Handler.avatarUrl login) ∧
    ((∀ login, ¬ Handler.LacksAvatar Handler.reservedRoutes (draft.fill resolver.normalize) login) →
      (resolver.complete draft).image = (draft.fill resolver.normalize).image) := by
  obtain ⟨havatar, hkept⟩ := correct_defaultHandlers resolver.settings (draft.fill resolver.normalize)
  rw [← complete_default_link hhandlers] at h
  rw [complete, ImageRule.apply_of_none h, Chain.complete, hhandlers]
  exact ⟨fun login hlacks => by rw [havatar login hlacks], fun hall => by rw [hkept hall]⟩

end

/-- **Which image a record has.** With the default chain, a record is the draft of the handler that wins as it
was filled in, but for the image; its link is the normal form of what the handler asked for. The image is that
of the first rule that matches the link. If no rule does, it is the avatar of the login that the link names if
the record as filled in lacks one, and otherwise the image of the handler, or the icon of the link where the
handler gives none. -/
theorem image_precedence (registry : Registry) (settings : Settings) (normalize : Text → Text)
    (hdefaults : registry.HasDefaults) (hchain : settings.chain = none) :
    ∃ resolver, Resolver.build registry settings normalize = .ok resolver ∧ ∀ payload record,
      resolver.resolve payload = .ok (some record) →
        ∃ handler ∈ Resolver.defaultHandlers settings, ∃ draft,
          handler.resolve payload = .ok (some draft) ∧ resolver.WonBy handler payload ∧
          record = { draft.fill normalize with image := record.image } ∧
          record.link = normalize draft.link ∧
          (∀ before rule after, settings.rules = before ++ rule :: after →
            (∀ other ∈ before, ¬ other.matcher.Matches record.link) → rule.matcher.Matches record.link →
            record.image = rule.image) ∧
          ((∀ rule ∈ settings.rules, ¬ rule.matcher.Matches record.link) →
            (∀ login, Handler.LacksAvatar Handler.reservedRoutes (draft.fill normalize) login →
              record.image = Handler.avatarUrl login) ∧
            ((∀ login, ¬ Handler.LacksAvatar Handler.reservedRoutes (draft.fill normalize) login) →
              record.image = orDefault draft.image (Link.favicon record.link))) := by
  have hbuiltin : ∀ handler ∈ Resolver.defaultHandlers settings, handler.IsBuiltin := fun _ =>
    Resolver.isBuiltin_of_mem_defaultHandlers
  refine ⟨_, Resolver.build_default hdefaults hchain normalize, fun payload record hresolve => ?_⟩
  generalize hresolver : (⟨settings, Resolver.defaultHandlers settings, normalize⟩ : Resolver) = resolver
    at hresolve ⊢
  have hhandlers : resolver.handlers = Resolver.defaultHandlers settings := by rw [← hresolver]
  obtain rfl : resolver.settings = settings := by rw [← hresolver]
  obtain rfl : resolver.normalize = normalize := by rw [← hresolver]
  obtain ⟨handler, hmem, draft, hdraft, hwon, -, rfl⟩ := Resolver.exists_wonBy hresolve
  rw [hhandlers] at hmem
  rw [← hhandlers] at hbuiltin
  have hlink := Resolver.complete_link hbuiltin draft
  refine ⟨handler, hmem, draft, hdraft, hwon, Resolver.complete_eq hbuiltin draft, hlink, ?_, ?_⟩
  · intro before rule after hrules hbefore hrule
    exact Resolver.complete_default_of_first hhandlers draft hrules hbefore hrule
  · intro hnone
    rw [hlink, ← Draft.fill_image]
    exact Resolver.complete_default_of_none hhandlers draft hnone

/-- Settings with a rule for the page of one login. -/
def markedSettings : Settings :=
  { rules := [{ matcher := .exact "https://github.com/b", image := "i" }] }

/-- Links to the pages of two logins, of which one has a rule. -/
theorem image_precedence_marked :
    Registry.builtin.HasDefaults ∧ markedSettings.chain = none ∧
    ∃ resolver first second, Resolver.build Registry.builtin markedSettings = .ok resolver ∧
      resolver.resolve "https://github.com/a" = .ok (some first) ∧ first.image = "https://github.com/a.png" ∧
      resolver.resolve "https://github.com/b" = .ok (some second) ∧ second.image = "i" := by
  obtain ⟨resolver, hbuild, himages⟩ :=
    image_precedence Registry.builtin markedSettings Url.normalize Registry.builtin_hasDefaults rfl
  obtain ⟨first, hfirst, hfirstLink⟩ : ∃ record, resolver.resolve "https://github.com/a" = .ok (some record) ∧
      record.link = "https://github.com/a" := by
    cases hbuild
    exact ⟨_, rfl, by decide⟩
  obtain ⟨second, hsecond, hsecondLink⟩ : ∃ record, resolver.resolve "https://github.com/b" = .ok (some record) ∧
      record.link = "https://github.com/b" := by
    cases hbuild
    exact ⟨_, rfl, by decide⟩
  refine ⟨Registry.builtin_hasDefaults, rfl, resolver, first, second, hbuild, hfirst, ?_, hsecond, ?_⟩
  · obtain ⟨handler, hmem, draft, hdraft, -, -, hlink, -, hnone⟩ := himages _ first hfirst
    obtain ⟨hkind, himage⟩ : draft.kind = some Handler.namedKind ∧ draft.image = none := by
      simp only [Resolver.defaultHandlers, List.mem_cons, List.not_mem_nil, or_false] at hmem
      rcases hmem with rfl | rfl | rfl
      · cases hdraft
        exact ⟨rfl, rfl⟩
      · cases hdraft
      · cases hdraft
    have hrules : ∀ rule ∈ markedSettings.rules, ¬ rule.matcher.Matches first.link := by
      intro rule hrule
      obtain rfl := List.mem_singleton.mp hrule
      rw [hfirstLink, ← Matcher.holds_eq_true_iff]
      decide
    rw [hlink] at hfirstLink
    refine (hnone hrules).1 "a" ⟨?_, ?_, by decide, by decide, ?_⟩
    · rw [Draft.fill_kind, hkind]
      decide
    · rw [Draft.fill_link, hfirstLink]
      exact ⟨"https://", [], Or.inr (Or.inr rfl), rfl, List.all_eq_true.mp rfl, Or.inl rfl⟩
    · rw [Draft.fill_image, himage, hfirstLink]
      exact ⟨"github.com", by decide⟩
  · obtain ⟨-, -, -, -, -, -, -, hrule, -⟩ := himages _ second hsecond
    refine hrule [] _ [] rfl (by simp) ?_
    rw [hsecondLink]
    exact .exact _

end BraceLink
