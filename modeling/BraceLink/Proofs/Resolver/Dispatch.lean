import BraceLink.Proofs.Resolver.Build
import BraceLink.Proofs.Text.Basic

/-!
# Which handler of the default chain answers

The kinds of payloads of the three default handlers overlap: a mention may carry an address, and a
configured name may begin with an at sign. `resolve_default` decides every payload: the address that it
asks for comes first (`address`, `HasWebHost`), then a mention on a platform, then a mention of a login.
-/

namespace BraceLink

/-! ### What a payload asks for -/

/-- The address that a payload asks for: its second part, otherwise the target of its first part,
otherwise its first part. -/
def address (links : Table Target) (payload : Text) : Text :=
  if Payload.part 1 payload ≠ [] then Payload.part 1 payload
  else
    match links.get? (Payload.part 0 payload) with
    | some target =>
      if Payload.part 0 payload ≠ [] ∧ target.link ≠ [] then target.link else Payload.part 0 payload
    | none => Payload.part 0 payload

/-- The URL begins with one of the two schemes of the web, and it has a host name. -/
def HasWebHost (url : Text) : Prop :=
  (("http://" : String).toList <+: url ∨ ("https://" : String).toList <+: url) ∧
    ∃ name, Url.host url = .ok name ∧ name ≠ []

def Settings.Lists (settings : Settings) (platform user : Text) : Prop :=
  ∃ users profile, settings.platforms.get? platform = some users ∧ users.get? user = some profile

theorem hasWebHost_iff (url : Text) :
    HasWebHost url ↔ (Handler.isWebUrl url && Url.hasHost url) = true := by
  rw [HasWebHost, Bool.and_eq_true, Handler.isWebUrl, Bool.or_eq_true, Text.isPrefix_iff,
    Text.isPrefix_iff, Url.hasHost]
  refine and_congr_right fun _ => ?_
  cases Url.host url with
  | error fault => simp
  | ok name => simp

theorem firstNonEmpty_eq_address (links : Table Target) (payload : Text) :
    Payload.firstNonEmpty
      [Payload.part 1 payload,
        ((Handler.target? links (Payload.part 0 payload)).map Target.link).getD []]
      (Payload.part 0 payload) = address links payload := by
  rw [address, Payload.firstNonEmpty, Handler.target?, Table.get?]
  by_cases hsecond : Payload.part 1 payload = []
  · by_cases hfirst : Payload.part 0 payload = []
    · cases links.lookup (Payload.part 0 payload) <;> simp [hsecond, hfirst]
    · cases links.lookup (Payload.part 0 payload) with
      | none => simp [hsecond, hfirst]
      | some target => by_cases hlink : target.link = [] <;> simp [hsecond, hfirst, hlink]
  · simp [hsecond]

/-! ### The three handlers -/

section

variable {payload : Text}

theorem named_answers {links : Table Target} (h : HasWebHost (address links payload)) :
    (Handler.named links).Answers payload := by
  rw [hasWebHost_iff] at h
  obtain ⟨draft, hdraft⟩ : ∃ draft, Handler.namedDraft links payload = some draft := by
    simp only [Handler.namedDraft, firstNonEmpty_eq_address, h, if_true]
    exact ⟨_, rfl⟩
  exact ⟨draft, congrArg Except.ok hdraft⟩

theorem named_declines {links : Table Target} (h : ¬ HasWebHost (address links payload)) :
    (Handler.named links).Declines payload := by
  rw [hasWebHost_iff] at h
  apply congrArg Except.ok
  simp only [Handler.namedDraft, firstNonEmpty_eq_address]
  rw [if_neg h]

theorem mention?_of_part {mention : Text} (h : Payload.part 0 payload = '@' :: mention) :
    Handler.mention? payload = some mention := by
  rw [Handler.mention?, h]
  rfl

theorem mention?_eq_none (h : (Payload.part 0 payload).head? ≠ some '@') :
    Handler.mention? payload = none := by
  unfold Handler.mention?
  split
  · rename_i heq
    rw [heq] at h
    exact absurd rfl h
  · rfl

section

variable {settings : Settings} {platform user : Text}

theorem platformDraft_isSome (h : Payload.part 0 payload = '@' :: (platform ++ ':' :: user))
    (hcolon : ':' ∉ platform) :
    (Handler.platformDraft settings.platforms payload).isSome ↔
      platform ≠ [] ∧ user ≠ [] ∧ settings.Lists platform user := by
  have hlists : (Handler.profile? settings.platforms platform user).isSome ↔
      settings.Lists platform user := by
    rw [Option.isSome_iff_exists, Settings.Lists, exists_comm]
    exact exists_congr fun profile => Option.bind_eq_some_iff
  rw [Handler.platformDraft, mention?_of_part h]
  simp only [Text.cut_of_mem hcolon user, Bool.or_eq_true, List.isEmpty_iff]
  by_cases hplatform : platform = []
  · simp [hplatform]
  · by_cases huser : user = []
    · simp [huser]
    · simp [hplatform, huser, ← hlists]

theorem platform_answers (h : Payload.part 0 payload = '@' :: (platform ++ ':' :: user))
    (hcolon : ':' ∉ platform)
    (hlisted : platform ≠ [] ∧ user ≠ [] ∧ settings.Lists platform user) :
    (Handler.platform settings.platforms).Answers payload := by
  obtain ⟨draft, hdraft⟩ := Option.isSome_iff_exists.mp ((platformDraft_isSome h hcolon).mpr hlisted)
  exact ⟨draft, congrArg Except.ok hdraft⟩

theorem platform_declines (h : Payload.part 0 payload = '@' :: (platform ++ ':' :: user))
    (hcolon : ':' ∉ platform)
    (hnot : ¬ (platform ≠ [] ∧ user ≠ [] ∧ settings.Lists platform user)) :
    (Handler.platform settings.platforms).Declines payload := by
  rw [← platformDraft_isSome h hcolon, Option.not_isSome_iff_eq_none] at hnot
  exact congrArg Except.ok hnot

theorem github_declines (h : Payload.part 0 payload = '@' :: (platform ++ ':' :: user)) :
    Handler.github.Declines payload := by
  have hcolon : ':' ∈ platform ++ ':' :: user := by simp
  apply congrArg Except.ok
  rw [Handler.githubDraft, mention?_of_part h]
  simp only [if_pos hcolon]

end

section

variable {login : Text}

theorem platform_declines_login (platforms : Table (Table Profile))
    (h : Payload.part 0 payload = '@' :: login) (hcolon : ':' ∉ login) :
    (Handler.platform platforms).Declines payload := by
  apply congrArg Except.ok
  rw [Handler.platformDraft, mention?_of_part h]
  simp only [Text.cut_of_not_mem hcolon]

theorem github_answers (h : Payload.part 0 payload = '@' :: login) (hcolon : ':' ∉ login) :
    Handler.github.Answers payload := by
  obtain ⟨draft, hdraft⟩ : ∃ draft, Handler.githubDraft payload = some draft := by
    rw [Handler.githubDraft, mention?_of_part h]
    simp only [if_neg hcolon]
    exact ⟨_, rfl⟩
  exact ⟨draft, congrArg Except.ok hdraft⟩

end

theorem platform_declines_plain (platforms : Table (Table Profile))
    (h : (Payload.part 0 payload).head? ≠ some '@') :
    (Handler.platform platforms).Declines payload := by
  apply congrArg Except.ok
  rw [Handler.platformDraft, mention?_eq_none h]

theorem github_declines_plain (h : (Payload.part 0 payload).head? ≠ some '@') :
    Handler.github.Declines payload := by
  apply congrArg Except.ok
  rw [Handler.githubDraft, mention?_eq_none h]

end

/-! ### Dispatch -/

/-- **Dispatch of the default chain.** No payload makes it fail. A payload that asks for an address of the
web with a host belongs to the handler of links, even if it is a mention. Any other mention on a platform
belongs to the handler of platforms if the settings list its user, and to nobody if they do not; any other
mention of a login belongs to the handler of GitHub mentions; and nothing else resolves. -/
theorem resolve_default (registry : Registry) (settings : Settings) (normalize : Text → Text)
    (hdefaults : registry.HasDefaults) (hchain : settings.chain = none) :
    ∃ resolver, Resolver.build registry settings normalize = .ok resolver ∧ ∀ payload : Text,
      (∃ record, resolver.resolve payload = .ok record) ∧
      (HasWebHost (address settings.links payload) →
        resolver.WonBy (Handler.named settings.links) payload) ∧
      (¬ HasWebHost (address settings.links payload) →
        (∀ platform user, Payload.part 0 payload = '@' :: (platform ++ ':' :: user) →
          ':' ∉ platform →
          (platform ≠ [] ∧ user ≠ [] ∧ settings.Lists platform user →
            resolver.WonBy (Handler.platform settings.platforms) payload) ∧
          (¬ (platform ≠ [] ∧ user ≠ [] ∧ settings.Lists platform user) →
            resolver.resolve payload = .ok none)) ∧
        (∀ login, Payload.part 0 payload = '@' :: login → ':' ∉ login →
          resolver.WonBy Handler.github payload) ∧
        ((Payload.part 0 payload).head? ≠ some '@' → resolver.resolve payload = .ok none)) := by
  refine ⟨_, Resolver.build_default hdefaults hchain normalize, fun payload => ⟨?_, ?_, ?_⟩⟩
  · exact Resolver.resolve_ok
      (fun handler hmem => (Resolver.isBuiltin_of_mem_defaultHandlers hmem).neverFails) payload
  · intro hhost
    exact Resolver.wonBy_of_declines [] rfl (by simp) (named_answers hhost)
  · intro hhost
    have hnamed := named_declines hhost
    refine ⟨fun platform user hpart hcolon => ⟨fun hlisted => ?_, fun hnot => ?_⟩,
      fun login hpart hcolon => ?_, fun hhead => ?_⟩
    · exact Resolver.wonBy_of_declines [Handler.named settings.links] rfl
        (by simpa using hnamed) (platform_answers hpart hcolon hlisted)
    · have hplatform := platform_declines hpart hcolon hnot
      have hgithub := github_declines hpart
      exact Resolver.resolve_none (by simp [Resolver.defaultHandlers, hnamed, hplatform, hgithub])
    · have hplatform := platform_declines_login settings.platforms hpart hcolon
      exact Resolver.wonBy_of_declines
        [Handler.named settings.links, Handler.platform settings.platforms] rfl
        (by simp [hnamed, hplatform]) (github_answers hpart hcolon)
    · have hplatform := platform_declines_plain settings.platforms hhead
      have hgithub := github_declines_plain hhead
      exact Resolver.resolve_none (by simp [Resolver.defaultHandlers, hnamed, hplatform, hgithub])

/-- Settings with one user of one platform. -/
def listedSettings : Settings :=
  { platforms := [("x", [("z", { link := "https://x.y/z", avatar := [] })])] }

/-- Settings that list one user of one platform, and the four ways in which a mention can end. -/
theorem resolve_default_listed :
    Registry.builtin.HasDefaults ∧ listedSettings.chain = none ∧
    ∃ resolver, Resolver.build Registry.builtin listedSettings = .ok resolver ∧
      resolver.WonBy (Handler.named []) "@x:z|https://b.c" ∧
      resolver.WonBy (Handler.platform listedSettings.platforms) "@x:z" ∧
      resolver.resolve "@x:y" = .ok none ∧
      resolver.WonBy Handler.github "@x" := by
  obtain ⟨resolver, hbuild, hdispatch⟩ :=
    resolve_default Registry.builtin listedSettings Url.normalize Registry.builtin_hasDefaults rfl
  obtain ⟨-, hlink, -⟩ := hdispatch "@x:z|https://b.c"
  obtain ⟨-, -, hplatform⟩ := hdispatch "@x:z"
  obtain ⟨-, -, hnobody⟩ := hdispatch "@x:y"
  obtain ⟨-, -, hgithub⟩ := hdispatch "@x"
  refine ⟨Registry.builtin_hasDefaults, rfl, resolver, hbuild, hlink ?_, ?_, ?_, ?_⟩
  · exact ⟨Or.inr (by decide), "b.c", by decide, by decide⟩
  · exact ((hplatform (by rw [hasWebHost_iff]; decide)).1 "x" "z" (by decide) (by decide)).1
      ⟨by decide, by decide, _, _, rfl, rfl⟩
  · refine ((hnobody (by rw [hasWebHost_iff]; decide)).1 "x" "y" (by decide) (by decide)).2 ?_
    rintro ⟨-, -, users, profile, husers, hprofile⟩
    cases husers
    cases hprofile
  · exact (hgithub (by rw [hasWebHost_iff]; decide)).2.1 "x" (by decide) (by decide)

end BraceLink
