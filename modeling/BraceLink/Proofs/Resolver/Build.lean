import BraceLink.Proofs.Outcome
import BraceLink.Proofs.Resolver.Chain

/-!
# Building resolvers

A chain is built entry by entry (`Registry.buildChain_eq_ok_iff`), so settings whose entries all stand for
built-in handlers give a resolver of built-in handlers (`Registry.BuildsBuiltin.exists_resolver`), and
these never fail (`Handler.IsBuiltin.neverFails`). Settings without a chain of their own give the default
chain wherever the default names stand for the default kinds (`Resolver.build_default`).
-/

namespace BraceLink

/-! ### Chains -/

def Settings.entries (settings : Settings) : List ChainEntry :=
  settings.chain.getD (Registry.defaultNames.map ChainEntry.name)

variable {registry : Registry} {settings : Settings}

theorem Registry.buildChain_eq_ok_iff {handlers : List Handler} :
    registry.buildChain settings settings.chain = .ok handlers ↔
      List.Forall₂ (fun entry handler => registry.build settings entry = .ok handler)
        settings.entries handlers :=
  mapM_eq_ok_iff

theorem Resolver.build_eq_ok (normalize : Text → Text) {handlers : List Handler}
    (h : List.Forall₂ (fun entry handler => registry.build settings entry = .ok handler)
      settings.entries handlers) :
    Resolver.build registry settings normalize = .ok ⟨settings, handlers, normalize⟩ := by
  rw [Resolver.build, Registry.buildChain_eq_ok_iff.mpr h]
  rfl

/-! ### Built-in handlers -/

/-- The three built-in kinds of handlers, with any configuration. -/
inductive Handler.IsBuiltin : Handler → Prop
  | named (links : Table Target) : IsBuiltin (Handler.named links)
  | platform (platforms : Table (Table Profile)) : IsBuiltin (Handler.platform platforms)
  | github (reserved : List Text) : IsBuiltin (Handler.github reserved)

theorem Handler.IsBuiltin.neverFails {handler : Handler} (h : handler.IsBuiltin) :
    handler.NeverFails := by
  intro payload
  cases h with
  | named links => exact ⟨_, rfl⟩
  | platform platforms => exact ⟨_, rfl⟩
  | github reserved => exact ⟨_, rfl⟩

/-! ### Settings of built-in handlers -/

/-- Every entry of the chain stands for a built-in handler. -/
def Registry.BuildsBuiltin (registry : Registry) (settings : Settings) : Prop :=
  ∀ entry ∈ settings.entries, ∃ handler,
    registry.build settings entry = .ok handler ∧ handler.IsBuiltin

theorem Registry.exists_builtin_handlers {entries : List ChainEntry}
    (h : ∀ entry ∈ entries, ∃ handler,
      registry.build settings entry = .ok handler ∧ handler.IsBuiltin) :
    ∃ handlers, (∀ handler ∈ handlers, handler.IsBuiltin) ∧
      List.Forall₂ (fun entry handler => registry.build settings entry = .ok handler)
        entries handlers := by
  induction entries with
  | nil => exact ⟨[], by simp, .nil⟩
  | cons entry rest ih =>
    obtain ⟨handler, hhandler, hbuiltin⟩ := h entry (by simp)
    obtain ⟨handlers, hhandlers, hrest⟩ := ih fun other hother => h other (by simp [hother])
    exact ⟨handler :: handlers, by simpa [hbuiltin] using hhandlers, .cons hhandler hrest⟩

theorem Registry.BuildsBuiltin.exists_resolver (h : registry.BuildsBuiltin settings)
    (normalize : Text → Text) :
    ∃ handlers, (∀ handler ∈ handlers, handler.IsBuiltin) ∧
      Resolver.build registry settings normalize = .ok ⟨settings, handlers, normalize⟩ := by
  obtain ⟨handlers, hhandlers, hchain⟩ := Registry.exists_builtin_handlers h
  exact ⟨handlers, hhandlers, Resolver.build_eq_ok normalize hchain⟩

/-- The default names stand for the default kinds. -/
structure Registry.HasDefaults (registry : Registry) : Prop where
  named : registry.get "link" = .ok HandlerKind.named
  platform : registry.get "platform-at" = .ok HandlerKind.platform
  github : registry.get "github-at" = .ok HandlerKind.github

theorem Registry.builtin_hasDefaults : Registry.builtin.HasDefaults := ⟨rfl, rfl, rfl⟩

def Resolver.defaultHandlers (settings : Settings) : List Handler :=
  [Handler.named settings.links, Handler.platform settings.platforms, Handler.github]

theorem Resolver.isBuiltin_of_mem_defaultHandlers {handler : Handler}
    (h : handler ∈ Resolver.defaultHandlers settings) : handler.IsBuiltin := by
  simp only [Resolver.defaultHandlers, List.mem_cons, List.not_mem_nil, or_false] at h
  rcases h with rfl | rfl | rfl
  · exact .named _
  · exact .platform _
  · exact .github _

theorem Registry.build_name {name : Text} {kind : HandlerKind} {build : Settings → Handler}
    (hget : registry.get name = .ok kind) (hbuild : kind.build? = some build) :
    registry.build settings (.name name) = .ok (build settings) := by
  simp only [Registry.build, Registry.create, hget, hbuild]

theorem Resolver.build_default (hdefaults : registry.HasDefaults) (hchain : settings.chain = none)
    (normalize : Text → Text) :
    Resolver.build registry settings normalize =
      .ok ⟨settings, Resolver.defaultHandlers settings, normalize⟩ := by
  refine Resolver.build_eq_ok normalize ?_
  rw [Settings.entries, hchain]
  exact .cons (Registry.build_name hdefaults.named rfl)
    (.cons (Registry.build_name hdefaults.platform rfl)
      (.cons (Registry.build_name hdefaults.github rfl) .nil))

theorem Registry.HasDefaults.buildsBuiltin (hdefaults : registry.HasDefaults)
    (hchain : settings.chain = none) : registry.BuildsBuiltin settings := by
  intro entry hentry
  rw [Settings.entries, hchain] at hentry
  simp only [Option.getD_none, Registry.defaultNames, List.map_cons, List.map_nil, List.mem_cons,
    List.not_mem_nil, or_false] at hentry
  rcases hentry with rfl | rfl | rfl
  · exact ⟨_, Registry.build_name hdefaults.named rfl, .named _⟩
  · exact ⟨_, Registry.build_name hdefaults.platform rfl, .platform _⟩
  · exact ⟨_, Registry.build_name hdefaults.github rfl, .github _⟩

end BraceLink
