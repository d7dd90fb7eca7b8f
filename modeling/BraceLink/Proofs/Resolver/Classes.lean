import BraceLink.Proofs.Resolver.Complete
import BraceLink.Proofs.Resolver.Payload
import BraceLink.Proofs.Text.Words

/-!
# The classes of records

A record of the default chain has two classes, and the second one ends with its category
(`Resolver.classes_of_resolve`). Its class attribute puts a blank between them, so a reader who cuts the attribute at
blanks finds the two exactly if the category holds no blank (`Record.words_className_iff`).

The categories of addresses and of mentions of GitHub are fixed. The category of a mention on a platform begins with
the name of the platform, and the settings may give a platform any name (`Resolver.blank_in_kind_iff`). A name that
holds a bar or a colon never gets into a record, nor does one under which no user is listed whose own name can be
written (`Settings.CanMention`, `canMention_iff`). `classes_of_record` says for which payloads, and for which settings,
the attribute is a list of the classes.
-/

namespace BraceLink

/-! ### Attributes -/

theorem Record.words_className_iff {record : Record}
    (hclasses : record.classes = [Link.generalClass, Link.generalClass ++ '-' :: record.kind]) :
    Text.words record.className = record.classes ↔ ¬ record.kind.any Text.isBlank = true := by
  rw [Record.className, Text.words_join_eq_self_iff, hclasses, List.any_eq_true]
  constructor
  · rintro hwords ⟨c, hc, hblank⟩
    have hsecond : (Link.generalClass ++ '-' :: record.kind).IsWord := by
      apply hwords
      simp
    rw [hsecond.not_blank c (by simp [hc])] at hblank
    cases hblank
  · intro hkind
    have hnone : Link.generalClass.any Text.isBlank = false := by decide
    have hgeneral : ∀ c ∈ Link.generalClass, Text.isBlank c = false := by
      simpa using hnone
    have hsecond : (Link.generalClass ++ '-' :: record.kind).IsWord := by
      refine ⟨by simp, fun c hc => ?_⟩
      rcases List.mem_append.mp hc with hc | hc
      · exact hgeneral c hc
      · rcases List.mem_cons.mp hc with rfl | hc
        · rfl
        · rw [← Bool.not_eq_true]
          exact fun hblank => hkind ⟨c, hc, hblank⟩
    have hfirst : Text.IsWord Link.generalClass := ⟨by decide, hgeneral⟩
    simpa using And.intro hfirst hsecond

/-! ### Categories -/

section

variable {payload platform user : Text}

theorem draft_classes_eq_nil {settings : Settings} {handler : Handler} {draft : Draft}
    (hhandler : handler ∈ Resolver.defaultHandlers settings) (h : handler.resolve payload = .ok (some draft)) :
    draft.classes = [] := by
  simp only [Resolver.defaultHandlers, List.mem_cons, List.not_mem_nil, or_false] at hhandler
  rcases hhandler with rfl | rfl | rfl
  · obtain ⟨-, -, -, -, hclasses⟩ := named_draft h
    exact hclasses
  · obtain ⟨_, _, _, -, -, -, -, rfl⟩ := platform_draft h
    rfl
  · obtain ⟨_, -, rfl⟩ := github_draft h
    rfl

namespace Resolver

variable {resolver : Resolver} {record : Record}

theorem WonBy.platform_kind {platforms : Table (Table Profile)}
    (hbuiltin : ∀ handler ∈ resolver.handlers, handler.IsBuiltin)
    (hwon : resolver.WonBy (Handler.platform platforms) payload)
    (h : resolver.resolve payload = .ok (some record))
    (hpart : Payload.part 0 payload = '@' :: (platform ++ ':' :: user)) (hcolon : ':' ∉ platform) :
    record.kind = platform ++ "-at" := by
  obtain ⟨draft, hdraft, rfl⟩ := hwon.exists_draft h
  obtain ⟨platform', user', profile, hpart', hcolon', -, -, rfl⟩ := platform_draft hdraft
  obtain ⟨rfl, rfl⟩ := mention_inj (hpart.symm.trans hpart') hcolon hcolon'
  rw [complete_kind hbuiltin, Draft.fill_kind]
  apply orDefault_some
  simp

section

variable (hhandlers : resolver.handlers = defaultHandlers resolver.settings)

include hhandlers

theorem isBuiltin_of_default : ∀ handler ∈ resolver.handlers, handler.IsBuiltin := by
  rw [hhandlers]
  exact fun _ => isBuiltin_of_mem_defaultHandlers

theorem classes_of_resolve (h : resolver.resolve payload = .ok (some record)) :
    record.classes = [Link.generalClass, Link.generalClass ++ '-' :: record.kind] := by
  obtain ⟨handler, hhandler, draft, hdraft, -, -, rfl⟩ := exists_wonBy h
  rw [hhandlers] at hhandler
  rw [complete_eq (isBuiltin_of_default hhandlers)]
  simp only [Draft.fill, draft_classes_eq_nil hhandler hdraft]

theorem blank_in_kind_iff (h : resolver.resolve payload = .ok (some record)) :
    record.kind.any Text.isBlank = true ↔
      resolver.WonBy (Handler.platform resolver.settings.platforms) payload ∧ ∃ platform user,
        Payload.part 0 payload = '@' :: (platform ++ ':' :: user) ∧ ':' ∉ platform ∧
        ∃ c ∈ platform, Text.isBlank c = true := by
  have hbuiltin := isBuiltin_of_default hhandlers
  have hplatform : ∀ platform : Text, (platform ++ "-at").any Text.isBlank = platform.any Text.isBlank := by
    intro platform
    have hbehind : ("-at" : String).toList.any Text.isBlank = false := by decide
    rw [List.any_append, hbehind, Bool.or_false]
  constructor
  · intro hblank
    obtain ⟨handler, hhandler, draft, hdraft, hwon, -, hrecord⟩ := exists_wonBy h
    simp only [hhandlers, defaultHandlers, List.mem_cons, List.not_mem_nil, or_false] at hhandler
    rcases hhandler with rfl | rfl | rfl
    · have hnone : (orDefault (some Handler.namedKind) Link.defaultKind).any Text.isBlank = false := by decide
      obtain ⟨-, -, hkind, -, -⟩ := named_draft hdraft
      rw [hrecord, complete_kind hbuiltin, Draft.fill_kind, hkind, hnone] at hblank
      cases hblank
    · obtain ⟨platform, user, -, hpart, hcolon, -, -, -⟩ := platform_draft hdraft
      rw [hwon.platform_kind hbuiltin h hpart hcolon, hplatform] at hblank
      exact ⟨hwon, platform, user, hpart, hcolon, List.any_eq_true.mp hblank⟩
    · have hnone : (orDefault (some Handler.githubKind) Link.defaultKind).any Text.isBlank = false := by decide
      obtain ⟨login, -, rfl⟩ := github_draft hdraft
      rw [hrecord, complete_kind hbuiltin, Draft.fill_kind, hnone] at hblank
      cases hblank
  · rintro ⟨hwon, platform, user, hpart, hcolon, hblank⟩
    rw [hwon.platform_kind hbuiltin h hpart hcolon, hplatform]
    exact List.any_eq_true.mpr hblank

theorem words_className_iff (h : resolver.resolve payload = .ok (some record)) :
    Text.words record.className = record.classes ↔
      ¬ (resolver.WonBy (Handler.platform resolver.settings.platforms) payload ∧ ∃ platform user,
        Payload.part 0 payload = '@' :: (platform ++ ':' :: user) ∧ ':' ∉ platform ∧
        ∃ c ∈ platform, Text.isBlank c = true) := by
  rw [Record.words_className_iff (classes_of_resolve hhandlers h), blank_in_kind_iff hhandlers h]

end

end Resolver

/-! ### Names that payloads can hold -/

/-- The settings list the user, and a payload can hold the names of the platform and of the user. -/
structure Settings.CanMention (settings : Settings) (platform user : Text) : Prop where
  listed : settings.Lists platform user
  platform_ne_nil : platform ≠ []
  user_ne_nil : user ≠ []
  colon : ':' ∉ platform
  bar : '|' ∉ platform ++ user
  last : ∀ c, user.getLast? = some c → Text.isBlank c = false

theorem Payload.part_zero_mem (payload : Text) : part 0 payload ∈ parts payload := by
  obtain ⟨first, rest, hparts⟩ := List.exists_cons_of_ne_nil (parts_ne_nil payload)
  rw [part, hparts]
  exact List.mem_cons_self

theorem getLast?_mention (huser : user ≠ []) :
    ('@' :: (platform ++ ':' :: user)).getLast? = user.getLast? := by
  have hmention : '@' :: (platform ++ ':' :: user) = '@' :: (platform ++ [':']) ++ user := by simp
  rw [hmention]
  exact List.getLast?_append_of_ne_nil _ huser

theorem Settings.CanMention.parts_eq {settings : Settings} (h : settings.CanMention platform user) :
    Payload.parts (Payload.ofParts ['@' :: (platform ++ ':' :: user), ['-']]) =
      ['@' :: (platform ++ ':' :: user), ['-']] := by
  have hbar : '|' ∉ '@' :: (platform ++ ':' :: user) := by
    simpa using h.bar
  have htrimmed : Text.IsTrimmed ('@' :: (platform ++ ':' :: user)) := by
    constructor
    · rintro c ⟨⟩
      rfl
    · intro c hc
      rw [getLast?_mention h.user_ne_nil] at hc
      exact h.last c hc
  rw [Payload.parts_ofParts (by simp) (by simpa using hbar), List.map_cons, Text.strip_eq_self_iff.mpr htrimmed]
  rfl

section

variable {resolver : Resolver}

theorem Settings.CanMention.exists_wonBy
    (hhandlers : resolver.handlers = Resolver.defaultHandlers resolver.settings)
    (h : resolver.settings.CanMention platform user) :
    ∃ payload, resolver.WonBy (Handler.platform resolver.settings.platforms) payload ∧
      Payload.part 0 payload = '@' :: (platform ++ ':' :: user) := by
  have hparts := h.parts_eq
  generalize Payload.ofParts ['@' :: (platform ++ ':' :: user), ['-']] = payload at hparts
  have hpart : Payload.part 0 payload = '@' :: (platform ++ ':' :: user) := by
    rw [Payload.part, hparts]
    rfl
  have hsecond : Payload.part 1 payload = ['-'] := by
    rw [Payload.part, hparts]
    rfl
  -- the second part keeps the handler of links away, even if the mention is the name of a link
  have hhost : ¬ HasWebHost (address resolver.settings.links payload) := by
    rw [address, if_pos (by rw [hsecond]; simp), hsecond, hasWebHost_iff]
    decide
  have hanswers : (Handler.platform resolver.settings.platforms).Answers payload :=
    platform_answers hpart h.colon ⟨h.platform_ne_nil, h.user_ne_nil, h.listed⟩
  refine ⟨payload, ?_, hpart⟩
  apply Resolver.wonBy_of_declines [Handler.named resolver.settings.links] hhandlers ?_ hanswers
  simpa using named_declines hhost

theorem Resolver.WonBy.canMention {payload : Text}
    (hwon : resolver.WonBy (Handler.platform resolver.settings.platforms) payload)
    (hpart : Payload.part 0 payload = '@' :: (platform ++ ':' :: user)) (hcolon : ':' ∉ platform) :
    resolver.settings.CanMention platform user := by
  obtain ⟨draft, hdraft, -, -⟩ := hwon
  have hanswer : Handler.platformDraft resolver.settings.platforms payload = some draft := Except.ok.inj hdraft
  have hsome : (Handler.platformDraft resolver.settings.platforms payload).isSome := by
    rw [hanswer]
    rfl
  obtain ⟨hplatform, huser, hlisted⟩ := (platformDraft_isSome hpart hcolon).mp hsome
  -- a part of a payload is trimmed and holds no bar
  obtain ⟨hbar, hstrip⟩ := Payload.of_mem_parts (Payload.part_zero_mem payload)
  rw [hpart] at hbar hstrip
  have htrimmed := Text.strip_eq_self_iff.mp hstrip
  refine ⟨hlisted, hplatform, huser, hcolon, by simpa using hbar, fun c hc => htrimmed.last c ?_⟩
  rwa [getLast?_mention huser]

/-- A payload can mention a user exactly if the handler of platforms answers some mention of that user. -/
theorem canMention_iff (hhandlers : resolver.handlers = Resolver.defaultHandlers resolver.settings) :
    resolver.settings.CanMention platform user ↔ ∃ payload,
      resolver.WonBy (Handler.platform resolver.settings.platforms) payload ∧
      Payload.part 0 payload = '@' :: (platform ++ ':' :: user) ∧ ':' ∉ platform := by
  constructor
  · intro h
    obtain ⟨payload, hwon, hpart⟩ := h.exists_wonBy hhandlers
    exact ⟨payload, hwon, hpart, h.colon⟩
  · rintro ⟨payload, hwon, hpart, hcolon⟩
    exact hwon.canMention hpart hcolon

end

end

/-! ### Lists of classes -/

/-- **When the class attribute is a list of the classes.** A record of the default chain has the general class and the
class of its category. Cut at its blanks, the attribute gives back these two for every payload but the mentions on a
platform whose name holds a blank. So it does for all payloads exactly if no platform has such a name on which a payload
can mention a user. -/
theorem classes_of_record (registry : Registry) (settings : Settings) (normalize : Text → Text)
    (hdefaults : registry.HasDefaults) (hchain : settings.chain = none) :
    ∃ resolver, Resolver.build registry settings normalize = .ok resolver ∧
      (∀ payload record, resolver.resolve payload = .ok (some record) →
        record.classes = [Link.generalClass, Link.generalClass ++ '-' :: record.kind] ∧
        (Text.words record.className = record.classes ↔
          ¬ (resolver.WonBy (Handler.platform settings.platforms) payload ∧ ∃ platform user,
            Payload.part 0 payload = '@' :: (platform ++ ':' :: user) ∧ ':' ∉ platform ∧
            ∃ c ∈ platform, Text.isBlank c = true))) ∧
      ((∀ payload record, resolver.resolve payload = .ok (some record) →
          Text.words record.className = record.classes) ↔
        ∀ platform user, settings.CanMention platform user → ∀ c ∈ platform, Text.isBlank c = false) := by
  let resolver : Resolver := ⟨settings, Resolver.defaultHandlers settings, normalize⟩
  have hhandlers : resolver.handlers = Resolver.defaultHandlers resolver.settings := rfl
  refine ⟨resolver, Resolver.build_default hdefaults hchain normalize, ?_, ?_⟩
  · intro payload record h
    exact ⟨Resolver.classes_of_resolve hhandlers h, Resolver.words_className_iff hhandlers h⟩
  · constructor
    · intro hall platform user hmention c hc
      obtain ⟨payload, hwon, hpart, hcolon⟩ := (canMention_iff hhandlers).mp hmention
      have ⟨_, _, _, hresolve⟩ := hwon
      have hlist := (Resolver.words_className_iff hhandlers hresolve).mp (hall payload _ hresolve)
      rw [← Bool.not_eq_true]
      intro hblank
      exact hlist ⟨hwon, platform, user, hpart, hcolon, c, hc, hblank⟩
    · intro hnames payload record h
      rw [Resolver.words_className_iff hhandlers h]
      rintro ⟨hwon, platform, user, hpart, hcolon, c, hc, hblank⟩
      have hmention := (canMention_iff hhandlers).mpr ⟨payload, hwon, hpart, hcolon⟩
      rw [hnames platform user hmention c hc] at hblank
      cases hblank

/-- Options with a platform whose name is two words. -/
def twoWordSections : Settings.Sections :=
  { platforms := .map [(.text "my site", .map [(.text "bob",
      .map [(.text "link", .text "http://b.c"), (.text "avatar_url", .text "a")])])] }

/-- The settings that these options give. -/
def twoWordSettings : Settings :=
  { platforms := [("my site", [("bob", { link := "http://b.c", avatar := "a" })])] }

theorem twoWordSettings_isGivenPlain : twoWordSettings.IsGivenPlain :=
  .options twoWordSections (by decide) rfl

/-- A mention of a login, whose attribute is a list of its classes. -/
theorem classes_of_record_login :
    Registry.builtin.HasDefaults ∧ twoWordSettings.chain = none ∧
    ∃ resolver record, Resolver.build Registry.builtin twoWordSettings = .ok resolver ∧
      resolver.resolve "@bob" = .ok (some record) ∧ Text.words record.className = record.classes := by
  obtain ⟨resolver, hbuild, hrecords, -⟩ := classes_of_record Registry.builtin twoWordSettings Url.normalize
    Registry.builtin_hasDefaults rfl
  cases hbuild
  refine ⟨Registry.builtin_hasDefaults, rfl, _, _, rfl, rfl, (hrecords "@bob" _ rfl).2.mpr ?_⟩
  rintro ⟨-, platform, user, hpart, -, -⟩
  have hcolon : ':' ∈ Payload.part 0 "@bob" := by
    rw [hpart]
    simp
  exact absurd hcolon (by decide)

/-- A mention on a platform whose name is two words has two classes, and its attribute is a list of three. -/
theorem classes_of_two_words :
    Registry.builtin.HasDefaults ∧ twoWordSettings.chain = none ∧ twoWordSettings.IsGivenPlain ∧
    ∃ resolver record, Resolver.build Registry.builtin twoWordSettings = .ok resolver ∧
      resolver.resolve "@my site:bob" = .ok (some record) ∧
      record.classes = (["markdown-magic-link", "markdown-magic-link-my site-at"] : List Text) ∧
      Text.words record.className =
        (["markdown-magic-link", "markdown-magic-link-my", "site-at"] : List Text) := by
  refine ⟨Registry.builtin_hasDefaults, rfl, twoWordSettings_isGivenPlain, _, _, rfl, rfl, rfl, ?_⟩
  decide

end BraceLink
