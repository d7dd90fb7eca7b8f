import BraceLink.Proofs.Registry.Session
import BraceLink.Proofs.Resolver.Order

/-!
# The entries of chains

A chain is built entry by entry. What an entry stands for is a matter of this entry alone (`Registry.Builds`), and so
is why it cannot be built (`Registry.Refuses`); the first entry that cannot be decides about the chain. Building asks
the registry for every name (`Registry.building`) and never writes to it (`Registry.building_on`).

The same chain can be described in three ways: by nothing, by the names of the default handlers, and by these handlers
themselves. `chain_positional` adds that all payloads resolve alike then, and that none does if there are no entries.
-/

namespace BraceLink

namespace Registry

/-- What an entry of a chain stands for: itself, or a handler of the kind with this name, built from the settings. -/
inductive Builds (registry : Registry) (settings : Settings) : ChainEntry → Handler → Prop
  | handler (handler : Handler) : Builds registry settings (.handler handler) handler
  | name {name : Text} {kind : HandlerKind} {build : Settings → Handler} (hget : registry.get name = .ok kind)
    (hbuild : kind.build? = some build) : Builds registry settings (.name name) (build settings)

/-- Why an entry of a chain cannot be built. -/
inductive Refuses (registry : Registry) : ChainEntry → Error → Prop
  | unknown {name : Text} (hname : name ∉ registry.names) : Refuses registry (.name name) (registry.unknown name)
  | notBuildable {name : Text} {kind : HandlerKind} (hget : registry.get name = .ok kind)
    (hbuild : kind.build? = none) : Refuses registry (.name name) .notBuildable

variable {registry : Registry} {settings : Settings} {entry : ChainEntry} {entries : List ChainEntry}

theorem get_of_not_mem {name : Text} (h : name ∉ registry.names) :
    registry.get name = .error (registry.unknown name) := by
  rw [get, Table.lookup_eq_none_iff.mpr h]

theorem build_eq_ok_iff {handler : Handler} :
    registry.build settings entry = .ok handler ↔ registry.Builds settings entry handler := by
  constructor
  · intro h
    cases entry with
    | handler own =>
      cases h
      exact .handler _
    | name name =>
      rw [build, create] at h
      cases hget : registry.get name with
      | error error =>
        rw [hget] at h
        cases h
      | ok kind =>
        cases hbuild : kind.build? with
        | none => simp [hget, hbuild] at h
        | some build =>
          simp only [hget, hbuild, Except.ok.injEq] at h
          exact h ▸ .name hget hbuild
  · intro h
    cases h with
    | handler => rfl
    | name hget hbuild => exact build_name hget hbuild

theorem build_eq_error_iff {error : Error} :
    registry.build settings entry = .error error ↔ registry.Refuses entry error := by
  constructor
  · intro h
    cases entry with
    | handler own => cases h
    | name name =>
      rw [build, create] at h
      by_cases hname : name ∈ registry.names
      · obtain ⟨kind, hget⟩ := exists_get_iff.mpr hname
        cases hbuild : kind.build? with
        | none =>
          simp only [hget, hbuild, Except.error.injEq] at h
          exact h ▸ .notBuildable hget hbuild
        | some build => simp [hget, hbuild] at h
      · simp only [get_of_not_mem hname, Except.error.injEq] at h
        exact h ▸ .unknown hname
  · intro h
    cases h with
    | unknown hname => simp only [build, create, get_of_not_mem hname]
    | notBuildable hget hbuild => simp only [build, create, hget, hbuild]

/-! ### Building on a registry in use -/

theorem buildingEntry_on (s : Session) (settings : Settings) (entry : ChainEntry) :
    (buildingEntry settings entry).on s = (s.registry.build settings entry, s) := by
  unfold buildingEntry
  cases hbuild : s.registry.build settings entry <;> simp [hbuild]

theorem buildChain_entries (registry : Registry) (settings : Settings) (entries : List ChainEntry) :
    registry.buildChain settings (some entries) = entries.mapM (registry.build settings) := rfl

theorem building_on (s : Session) (settings : Settings) (entries : List ChainEntry) :
    (building settings entries).on s = (s.registry.buildChain settings (some entries), s) := by
  rw [buildChain_entries]
  induction entries with
  | nil => rfl
  | cons entry rest ih =>
    rw [List.mapM_cons, building]
    simp only [Step.on_bind, buildingEntry_on]
    cases s.registry.build settings entry with
    | error error => rfl
    | ok handler =>
      simp only [ih]
      cases rest.mapM (s.registry.build settings) <;> rfl

theorem buildChain_entries_eq_ok_iff {handlers : List Handler} :
    registry.buildChain settings (some entries) = .ok handlers ↔
      List.Forall₂ (registry.Builds settings) entries handlers := by
  simp only [buildChain_entries, mapM_eq_ok_iff, build_eq_ok_iff]

theorem buildChain_entries_eq_error_iff {error : Error} :
    registry.buildChain settings (some entries) = .error error ↔
      ∃ before entry after, entries = before ++ entry :: after ∧
        (∀ other ∈ before, ∃ handler, registry.Builds settings other handler) ∧ registry.Refuses entry error := by
  simp only [buildChain_entries, mapM_eq_error_iff, build_eq_ok_iff, build_eq_error_iff]

end Registry

/-! ### Three descriptions of the default chain -/

/-- The kind builds the same handlers whatever chain the settings ask for. -/
def HandlerKind.IgnoresChain (kind : HandlerKind) : Prop :=
  ∀ build, kind.build? = some build → ∀ settings chain, build { settings with chain := chain } = build settings

theorem Registry.HasDefaults.ignoresChain {registry : Registry} (h : registry.HasDefaults) :
    ∀ name ∈ Registry.defaultNames, ∀ kind, registry.get name = .ok kind → kind.IgnoresChain := by
  intro name hname kind hget
  simp only [Registry.defaultNames, List.mem_cons, List.not_mem_nil, or_false] at hname
  rcases hname with rfl | rfl | rfl
  · cases h.named.symm.trans hget
    rintro _ ⟨⟩ _ _
    rfl
  · cases h.platform.symm.trans hget
    rintro _ ⟨⟩ _ _
    rfl
  · cases h.github.symm.trans hget
    rintro _ ⟨⟩ _ _
    rfl

theorem Registry.build_name_congr {registry : Registry} {name : Text}
    (h : ∀ kind, registry.get name = .ok kind → kind.IgnoresChain) (settings : Settings)
    (chain : Option (List ChainEntry)) :
    registry.build { settings with chain := chain } (.name name) = registry.build settings (.name name) := by
  rw [build, build, create, create]
  cases hget : registry.get name with
  | error error => rfl
  | ok kind =>
    cases hbuild : kind.build? with
    | none => simp only [hbuild]
    | some build => simp only [hbuild, h kind hget build hbuild settings chain]

namespace Resolver

variable (settings : Settings) (normalize : Text → Text)

theorem build_handlers (registry : Registry) (handlers : List Handler) :
    build registry { settings with chain := some (handlers.map .handler) } normalize =
      .ok ⟨{ settings with chain := some (handlers.map .handler) }, handlers, normalize⟩ := by
  refine build_eq_ok normalize ?_
  rw [Settings.entries, Option.getD_some, List.forall₂_map_left_iff, List.forall₂_same]
  exact fun _ _ => rfl

/-- The names of the default chain say nothing that a missing chain does not say, also where they cannot be built. -/
theorem build_defaultNames {registry : Registry} {settings : Settings} (hchain : settings.chain = none)
    (hkinds : ∀ name ∈ Registry.defaultNames, ∀ kind, registry.get name = .ok kind → kind.IgnoresChain) :
    (build registry { settings with chain := some (Registry.defaultNames.map .name) } normalize).map resolve =
      (build registry settings normalize).map resolve := by
  have hsame : registry.buildChain { settings with chain := some (Registry.defaultNames.map .name) }
      (some (Registry.defaultNames.map .name)) = registry.buildChain settings none := by
    refine mapM_eq_of_forall₂ ?_
    rw [Option.getD_some, Option.getD_none, List.forall₂_same]
    intro entry hentry
    obtain ⟨name, hname, rfl⟩ := List.mem_map.mp hentry
    exact Registry.build_name_congr (hkinds name hname) settings _
  simp only [build, hchain, hsame]
  cases registry.buildChain settings none with
  | error error => rfl
  | ok handlers =>
    exact congrArg Except.ok (funext fun payload => resolve_congr rfl rfl rfl fun _ => rfl)

theorem build_chain_handlers {registry : Registry} {settings : Settings} {handlers : List Handler}
    (hchain : settings.chain = none) (hbuild : registry.buildChain settings none = .ok handlers) :
    (build registry { settings with chain := some (handlers.map .handler) } normalize).map resolve =
      (build registry settings normalize).map resolve := by
  rw [build_handlers, build, hchain, hbuild]
  exact congrArg Except.ok (funext fun payload => resolve_congr rfl rfl rfl fun _ => rfl)

end Resolver

/-- **Chains are built position by position.** A chain has a handler for each entry: an entry that is a handler
itself, and a name a handler of the kind that is registered under it, built from the settings. If an entry cannot be
built, the error is that of the first such entry; the registry stays as it is in either case. Settings without a
chain do the same as those that name the default chain and as those with its handlers themselves, which are the three
built-in ones where the default names stand for the default kinds. Without entries no payload resolves. -/
theorem chain_positional (s : Registry.Session) (settings : Settings) (normalize : Text → Text) :
    (∀ entries,
      (Registry.building settings entries).on s = (s.registry.buildChain settings (some entries), s) ∧
      (∀ handlers, s.registry.buildChain settings (some entries) = .ok handlers ↔
        List.Forall₂ (s.registry.Builds settings) entries handlers) ∧
      ∀ error, s.registry.buildChain settings (some entries) = .error error ↔
        ∃ before entry after, entries = before ++ entry :: after ∧
          (∀ other ∈ before, ∃ handler, s.registry.Builds settings other handler) ∧
          s.registry.Refuses entry error) ∧
    (settings.chain = none →
      ((∀ name ∈ Registry.defaultNames, ∀ kind, s.registry.get name = .ok kind → kind.IgnoresChain) →
        (Resolver.build s.registry { settings with chain := some (Registry.defaultNames.map .name) } normalize).map
          Resolver.resolve = (Resolver.build s.registry settings normalize).map Resolver.resolve) ∧
      (∀ handlers, s.registry.buildChain settings none = .ok handlers →
        (Resolver.build s.registry { settings with chain := some (handlers.map .handler) } normalize).map
          Resolver.resolve = (Resolver.build s.registry settings normalize).map Resolver.resolve) ∧
      (s.registry.HasDefaults →
        ∃ unset named given : Resolver,
          Resolver.build s.registry settings normalize = .ok unset ∧
          Resolver.build s.registry (settings.withNames [.named, .platform, .github]) normalize = .ok named ∧
          Resolver.build s.registry
            { settings with chain := some ((Resolver.defaultHandlers settings).map .handler) } normalize =
              .ok given ∧
          ∀ payload, named.resolve payload = unset.resolve payload ∧
            given.resolve payload = unset.resolve payload)) ∧
    ∃ empty, Resolver.build s.registry { settings with chain := some [] } normalize = .ok empty ∧
      ∀ payload, empty.resolve payload = .ok none := by
  refine ⟨fun entries => ⟨Registry.building_on s settings entries,
    fun _ => Registry.buildChain_entries_eq_ok_iff, fun _ => Registry.buildChain_entries_eq_error_iff⟩,
    fun hchain => ⟨Resolver.build_defaultNames normalize hchain,
      fun _ => Resolver.build_chain_handlers normalize hchain, fun hdefaults => ?_⟩, ?_⟩
  · refine ⟨_, _, _, Resolver.build_default hdefaults hchain normalize,
      Resolver.build_withNames hdefaults settings _ normalize, Resolver.build_handlers settings normalize _ _,
      fun payload => ⟨?_, ?_⟩⟩
    · exact Resolver.resolve_congr rfl rfl rfl fun _ => rfl
    · exact Resolver.resolve_congr rfl rfl rfl fun _ => rfl
  · exact ⟨_, Resolver.build_handlers settings normalize s.registry [], fun payload => rfl⟩

/-- The registry of the default chain with a kind that has no handlers of its own. -/
def withGeneral : Registry.Session := { registry := ⟨("abstract".toList, .general) :: Registry.builtin.entries⟩ }

/-- A handler and a name keep their places; of two entries that cannot be built the first decides. -/
theorem chain_positional_mixed :
    withGeneral.registry.buildChain {} (some [.handler .silent, .name "github-at"]) = .ok [.silent, .github] ∧
    (Registry.building {} [.name "link", .name "abstract", .name "none"]).on withGeneral =
      (.error .notBuildable, withGeneral) ∧
    (Registry.building {} [.name "link", .name "none", .name "abstract"]).on withGeneral =
      (.error (withGeneral.registry.unknown "none"), withGeneral) ∧
    ((Resolver.build withGeneral.registry { chain := some (Registry.defaultNames.map .name) }).map Resolver.resolve =
      (Resolver.build withGeneral.registry {}).map Resolver.resolve) ∧
    ∃ unset given empty : Resolver,
      Resolver.build withGeneral.registry {} = .ok unset ∧
      Resolver.build withGeneral.registry { chain := some ((Resolver.defaultHandlers {}).map .handler) } =
        .ok given ∧
      Resolver.build withGeneral.registry { chain := some [] } = .ok empty ∧
      given.resolve "@a" = unset.resolve "@a" ∧ empty.resolve "@a" = .ok none := by
  have hdefaults : withGeneral.registry.HasDefaults := ⟨rfl, rfl, rfl⟩
  obtain ⟨hentries, hunset, empty, hempty, hnone⟩ := chain_positional withGeneral {} Url.normalize
  obtain ⟨unset, named, given, hbuilt, hnamed, hgiven, hsame⟩ := (hunset rfl).2.2 hdefaults
  have hlink : ∃ handler, withGeneral.registry.Builds {} (.name "link") handler := ⟨_, .name hdefaults.named rfl⟩
  refine ⟨?mixed, ?abstract, ?unknown, (hunset rfl).1 hdefaults.ignoresChain,
    unset, given, empty, hbuilt, hgiven, hempty, (hsame "@a").2, hnone "@a"⟩
  case mixed => exact ((hentries _).2.1 _).mpr (.cons (.handler _) (.cons (.name hdefaults.github rfl) .nil))
  case abstract =>
    have hfirst := ((hentries [.name "link", .name "abstract", .name "none"]).2.2 .notBuildable).mpr
      ⟨[.name "link"], .name "abstract", [.name "none"], rfl, List.forall_mem_singleton.mpr hlink,
        .notBuildable rfl rfl⟩
    rw [(hentries _).1, hfirst]
  case unknown =>
    have hfirst := ((hentries [.name "link", .name "none", .name "abstract"]).2.2 _).mpr
      ⟨[.name "link"], .name "none", [.name "abstract"], rfl, List.forall_mem_singleton.mpr hlink,
        .unknown (by decide)⟩
    rw [(hentries _).1, hfirst]

end BraceLink
