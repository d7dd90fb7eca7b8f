import BraceLink.Proofs.Resolver.Link
import BraceLink.Proofs.Table

/-!
# What the targets of names decide

The targets that the settings give to names are read by the handler of links alone, and only for the first part of
a payload. If the payload has an address of its own, all that is left for them is the image
(`namedDraft_of_explicit`), and if the first part is no name that has a target, nothing is (`namedDraft_of_no_name`).
`resolve_other_targets` carries both through the rest of the chain and to the records.
-/

namespace BraceLink

variable {payload : Text} {links others : Table Target}

/-! ### The handler of links with other targets -/

theorem address_of_explicit (h : Payload.part 1 payload ≠ []) (links : Table Target) :
    address links payload = Payload.part 1 payload := if_pos h

theorem namedDraft_of_explicit (h : Payload.part 1 payload ≠ []) (links others : Table Target) :
    Handler.namedDraft others payload = (Handler.namedDraft links payload).map fun draft =>
      { draft with image := (Handler.target? others (Payload.part 0 payload)).bind Target.image } := by
  simp only [Handler.namedDraft, firstNonEmpty_eq_address, address_of_explicit h]
  split_ifs <;> rfl

theorem namedDraft_of_no_name (hlinks : Payload.part 0 payload ∉ links.names)
    (hothers : Payload.part 0 payload ∉ others.names) :
    Handler.namedDraft others payload = Handler.namedDraft links payload := by
  have hnone : ∀ {table : Table Target}, Payload.part 0 payload ∉ table.names →
      Handler.target? table (Payload.part 0 payload) = none := by
    intro table hname
    rw [Handler.target?, Table.lookup_eq_none_iff.mpr hname, ite_self]
  rw [Handler.namedDraft, Handler.namedDraft, hnone hlinks, hnone hothers]

theorem Chain.draft?_named (links : Table Target) (rest : List Handler) (payload : Text) :
    Chain.draft? (Handler.named links :: rest) payload =
      match Handler.namedDraft links payload with
      | some draft => .ok (some draft)
      | none => Chain.draft? rest payload := by
  have hresolve : (Handler.named links).resolve payload = .ok (Handler.namedDraft links payload) := rfl
  rw [Chain.draft?_cons, hresolve]
  cases Handler.namedDraft links payload <;> rfl

/-! ### Resolvers with other targets -/

namespace Resolver

variable (settings : Settings) (normalize : Text → Text)

/-- The resolver with the default chain and with these targets of names. -/
def withTargets (links : Table Target) : Resolver :=
  ⟨{ settings with links := links }, defaultHandlers { settings with links := links }, normalize⟩

theorem build_withTargets {registry : Registry} (hdefaults : registry.HasDefaults) (hchain : settings.chain = none)
    (links : Table Target) :
    build registry { settings with links := links } normalize = .ok (withTargets settings normalize links) := by
  have hother : ({ settings with links := links } : Settings).chain = none := hchain
  exact build_default hdefaults hother normalize

theorem parse_withTargets (links : Table Target) (payload : Text) :
    (withTargets settings normalize links).parse payload =
      match Handler.namedDraft links payload with
      | some draft => .ok (some draft)
      | none => Chain.draft? [Handler.platform settings.platforms, Handler.github] payload :=
  Chain.draft?_named links _ payload

theorem resolve_withTargets (h : Handler.namedDraft others payload = Handler.namedDraft links payload) :
    (withTargets settings normalize links).resolve payload =
      (withTargets settings normalize others).resolve payload := by
  refine resolve_congr rfl rfl ?_ fun record => rfl
  have hparse := parse_withTargets settings normalize links payload
  rw [← h, ← parse_withTargets settings normalize others payload] at hparse
  exact hparse

theorem isBuiltin_withTargets (links : Table Target) :
    ∀ handler ∈ (withTargets settings normalize links).handlers, handler.IsBuiltin := fun _ hmem =>
  isBuiltin_of_mem_defaultHandlers hmem

/-- Drafts that differ in the image become records that differ in the image. -/
theorem complete_withTargets (links others : Table Target) (draft : Draft) (own : Option Text) :
    ∃ image, (withTargets settings normalize others).complete { draft with image := own } =
      { (withTargets settings normalize links).complete draft with image := image } := by
  rw [complete_eq (isBuiltin_withTargets settings normalize others),
    complete_eq (isBuiltin_withTargets settings normalize links)]
  exact ⟨_, rfl⟩

theorem resolve_withTargets_of_explicit (h : Payload.part 1 payload ≠ []) (links others : Table Target) :
    ((withTargets settings normalize links).resolve payload = .ok none ∧
      (withTargets settings normalize others).resolve payload = .ok none) ∨
    ∃ record image, (withTargets settings normalize links).resolve payload = .ok (some record) ∧
      (withTargets settings normalize others).resolve payload = .ok (some { record with image := image }) := by
  have hothers := namedDraft_of_explicit h links others
  have hparse := parse_withTargets settings normalize links payload
  have hparse' := parse_withTargets settings normalize others payload
  cases hdraft : Handler.namedDraft links payload with
  | none =>
    -- the handlers behind the one of links know nothing of the targets
    have hnone : Handler.namedDraft others payload = Handler.namedDraft links payload := by
      rw [hothers, hdraft]
      rfl
    have hsame := resolve_withTargets settings normalize hnone
    have hnever : ∀ handler ∈ (withTargets settings normalize links).handlers, handler.NeverFails :=
      fun handler hmem => (isBuiltin_withTargets settings normalize links handler hmem).neverFails
    obtain ⟨record, hrecord⟩ := resolve_ok hnever payload
    cases record with
    | none => exact Or.inl ⟨hrecord, hsame.symm.trans hrecord⟩
    | some record => exact Or.inr ⟨record, record.image, hrecord, hsame.symm.trans hrecord⟩
  | some draft =>
    rw [hdraft] at hparse hothers
    rw [hothers] at hparse'
    obtain ⟨image, himage⟩ := complete_withTargets settings normalize links others draft
      ((Handler.target? others (Payload.part 0 payload)).bind Target.image)
    refine Or.inr ⟨(withTargets settings normalize links).complete draft, image, ?_, ?_⟩
    · rw [resolve, hparse]
      rfl
    · rw [resolve, hparse', ← himage]
      rfl

theorem resolve_withTargets_of_webHost (h : HasWebHost (Payload.part 1 payload)) (links : Table Target) :
    ∃ record, (withTargets settings normalize links).resolve payload = .ok (some record) ∧
      record.link = normalize (Payload.part 1 payload) := by
  have hexplicit : Payload.part 1 payload ≠ [] := by
    intro hempty
    rw [hempty] at h
    exact absurd h.1 (by decide)
  have haddress := address_of_explicit hexplicit links
  rw [← haddress] at h
  obtain ⟨draft, hdraft⟩ := named_answers h
  obtain ⟨-, hlink, -⟩ := named_draft hdraft
  have hparse := parse_withTargets settings normalize links payload
  rw [Except.ok.inj hdraft] at hparse
  refine ⟨(withTargets settings normalize links).complete draft, ?_, ?_⟩
  · rw [resolve, hparse]
    rfl
  · rw [complete_link (isBuiltin_withTargets settings normalize links), hlink, haddress]
    rfl

end Resolver

/-- **What the targets of names decide.** If a payload has an address of its own, resolvers that differ in the
targets of names give it nothing, or records that agree in everything but the image; and if that is an address of
the web with a host, it is the link. If the first part of a payload is no name that has a target, they agree in
everything. -/
theorem resolve_other_targets (registry : Registry) (settings : Settings) (normalize : Text → Text)
    (hdefaults : registry.HasDefaults) (hchain : settings.chain = none) :
    ∃ resolver : Table Target → Resolver,
      (∀ links, Resolver.build registry { settings with links := links } normalize = .ok (resolver links)) ∧
      ∀ links others payload,
        (Payload.part 1 payload ≠ [] →
          ((resolver links).resolve payload = .ok none ∧ (resolver others).resolve payload = .ok none) ∨
          ∃ record image, (resolver links).resolve payload = .ok (some record) ∧
            (resolver others).resolve payload = .ok (some { record with image := image })) ∧
        (HasWebHost (Payload.part 1 payload) →
          ∃ record, (resolver links).resolve payload = .ok (some record) ∧
            record.link = normalize (Payload.part 1 payload)) ∧
        (Payload.part 0 payload ∉ links.names → Payload.part 0 payload ∉ others.names →
          (resolver links).resolve payload = (resolver others).resolve payload) := by
  refine ⟨Resolver.withTargets settings normalize, fun links => ?_, fun links others payload => ⟨?_, ?_, ?_⟩⟩
  · exact Resolver.build_withTargets settings normalize hdefaults hchain links
  · intro hexplicit
    exact Resolver.resolve_withTargets_of_explicit settings normalize hexplicit links others
  · intro hhost
    exact Resolver.resolve_withTargets_of_webHost settings normalize hhost links
  · intro hlinks hothers
    exact Resolver.resolve_withTargets settings normalize (namedDraft_of_no_name hlinks hothers)

/-- A name with two targets: an address beside it is the link in either case, and a mention does not see it. -/
theorem resolve_other_targets_listed :
    Registry.builtin.HasDefaults ∧ ({} : Settings).chain = none ∧
    ∃ links others : Table Target, ∃ first second : Resolver,
      Resolver.build Registry.builtin { links := links } = .ok first ∧
      Resolver.build Registry.builtin { links := others } = .ok second ∧
      Payload.part 1 "b|https://a.c" ≠ [] ∧ HasWebHost (Payload.part 1 "b|https://a.c") ∧
      (∃ record image, first.resolve "b|https://a.c" = .ok (some record) ∧
        record.link = Url.normalize (Payload.part 1 "b|https://a.c") ∧
        second.resolve "b|https://a.c" = .ok (some { record with image := image })) ∧
      Payload.part 0 "@c" ∉ links.names ∧ Payload.part 0 "@c" ∉ others.names ∧
      first.resolve "@c" = second.resolve "@c" := by
  let links : Table Target := [("b", { link := "https://x.y", image := some "i" })]
  let others : Table Target := [("b", { link := "https://x.y" })]
  have hexplicit : Payload.part 1 "b|https://a.c" ≠ [] := by decide
  have hhost : HasWebHost (Payload.part 1 "b|https://a.c") :=
    ⟨Or.inr (by decide), "a.c", by decide, by decide⟩
  have hlinks : Payload.part 0 "@c" ∉ links.names := by decide
  have hothers : Payload.part 0 "@c" ∉ others.names := by decide
  obtain ⟨resolver, hbuild, hresolve⟩ :=
    resolve_other_targets Registry.builtin {} Url.normalize Registry.builtin_hasDefaults rfl
  obtain ⟨hrecords, hlink, -⟩ := hresolve links others "b|https://a.c"
  obtain ⟨-, -, hmention⟩ := hresolve links others "@c"
  refine ⟨Registry.builtin_hasDefaults, rfl, links, others, resolver links, resolver others, hbuild links,
    hbuild others, hexplicit, hhost, ?_, hlinks, hothers, hmention hlinks hothers⟩
  obtain ⟨record, hrecord, hrecordLink⟩ := hlink hhost
  rcases hrecords hexplicit with ⟨hnone, -⟩ | ⟨found, image, hfound, hsecond⟩
  · cases hrecord.symm.trans hnone
  · cases hrecord.symm.trans hfound
    exact ⟨record, image, hrecord, hrecordLink, hsecond⟩

end BraceLink
