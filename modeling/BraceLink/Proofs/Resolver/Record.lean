import BraceLink.Proofs.Resolver.Build

/-!
# What becomes of a draft

Handlers and image rules look at a record after it has been filled in. Built-in handlers and rules change
nothing but its image (`Resolver.complete_eq`), and `Resolver.complete_image` says which image it has in the
end: that of a rule, an avatar, or the one it was filled in with.
-/

namespace BraceLink

variable {record : Record}

/-- A draft's own value is used if it is not empty, and otherwise the default. -/
theorem orDefault_eq_or (own : Option Text) (default : Text) :
    (own = some (orDefault own default) ∧ orDefault own default ≠ []) ∨ orDefault own default = default := by
  rcases own with _ | _ | ⟨c, rest⟩
  · exact Or.inr rfl
  · exact Or.inr rfl
  · exact Or.inl ⟨rfl, by simp [orDefault]⟩

theorem orDefault_eq_default {own : Option Text} (h : orDefault own [] = []) (default : Text) :
    orDefault own default = default := by
  rcases own with _ | _ | ⟨c, rest⟩
  · rfl
  · rfl
  · simp [orDefault] at h

@[simp] theorem Draft.fill_text (normalize : Text → Text) (draft : Draft) :
    (draft.fill normalize).text = orDefault draft.text (Link.withoutScheme (normalize draft.link)) := rfl

@[simp] theorem Draft.fill_link (normalize : Text → Text) (draft : Draft) :
    (draft.fill normalize).link = normalize draft.link := rfl

@[simp] theorem Draft.fill_kind (normalize : Text → Text) (draft : Draft) :
    (draft.fill normalize).kind = orDefault draft.kind Link.defaultKind := rfl

@[simp] theorem Draft.fill_image (normalize : Text → Text) (draft : Draft) :
    (draft.fill normalize).image = orDefault draft.image (Link.favicon (normalize draft.link)) := rfl

/-! ### Corrections -/

/-- A built-in handler leaves a record alone, or it shows the avatar of the login that the link names. -/
theorem Handler.IsBuiltin.postprocess {handler : Handler} (h : handler.IsBuiltin) (record : Record) :
    handler.postprocess record = none ∨
      ∃ login, login ≠ [] ∧ Handler.githubLogin? record.link = some login ∧
        handler.postprocess record = some { record with image := Handler.avatarUrl login } := by
  cases h with
  | named links => exact Or.inl rfl
  | platform platforms => exact Or.inl rfl
  | github reserved =>
    change Handler.repairAvatar reserved record = none ∨
      ∃ login, login ≠ [] ∧ Handler.githubLogin? record.link = some login ∧
        Handler.repairAvatar reserved record = some { record with image := Handler.avatarUrl login }
    unfold Handler.repairAvatar
    split_ifs with hkind
    · exact Or.inl rfl
    · cases hlogin : Handler.githubLogin? record.link with
      | none => exact Or.inl rfl
      | some login =>
        dsimp only
        split_ifs with hkept
        · exact Or.inl rfl
        · simp only [Bool.or_eq_true, not_or, List.isEmpty_iff] at hkept
          exact Or.inr ⟨login, hkept.1.1, rfl, rfl⟩

/-- The record `after` is the record `before` but for the image, and a new image is an avatar. -/
structure Record.Redressed (before after : Record) : Prop where
  eq : after = { before with image := after.image }
  image : after.image = before.image ∨ ∃ login, login ≠ [] ∧ after.image = Handler.avatarUrl login

theorem Record.Redressed.refl (record : Record) : record.Redressed record := ⟨rfl, Or.inl rfl⟩

theorem Record.Redressed.trans {before between after : Record} (hfirst : before.Redressed between)
    (hsecond : between.Redressed after) : before.Redressed after where
  eq := by
    rw [hsecond.eq, hfirst.eq]
  image := by
    rcases hsecond.image with himage | havatar
    · rw [himage]
      exact hfirst.image
    · exact Or.inr havatar

theorem Chain.redressed_correct {chain : List Handler} (h : ∀ handler ∈ chain, handler.IsBuiltin)
    (record : Record) : record.Redressed (Chain.correct chain record) := by
  induction chain generalizing record with
  | nil => exact .refl record
  | cons handler chain ih =>
    have hstep : record.Redressed ((handler.postprocess record).getD record) := by
      rcases (h handler (by simp)).postprocess record with hnone | ⟨login, hlogin, -, hsome⟩
      · rw [hnone]
        exact .refl record
      · rw [hsome]
        exact ⟨rfl, Or.inr ⟨login, hlogin, rfl⟩⟩
    rw [Chain.correct_cons]
    exact hstep.trans (ih (fun other hother => h other (by simp [hother])) _)

theorem Chain.correct_eq_self {chain : List Handler} (h : ∀ handler ∈ chain, handler.IsBuiltin)
    (hlogin : ∀ login, login ≠ [] → Handler.githubLogin? record.link ≠ some login) :
    Chain.correct chain record = record := by
  induction chain with
  | nil => rfl
  | cons handler chain ih =>
    have hnone : handler.postprocess record = none := by
      rcases (h handler (by simp)).postprocess record with hnone | ⟨login, hne, hsome, -⟩
      · exact hnone
      · exact absurd hsome (hlogin login hne)
    rw [Chain.correct_cons, hnone, Option.getD_none]
    exact ih fun other hother => h other (by simp [hother])

theorem Chain.of_answer?_eq_some {chain : List Handler} {payload : Text} {handler : Handler} {draft : Draft}
    (h : Chain.answer? chain payload = .ok (some (handler, draft))) :
    handler ∈ chain ∧ handler.resolve payload = .ok (some draft) := by
  induction chain with
  | nil => cases h
  | cons other chain ih =>
    rw [Chain.answer?] at h
    split at h
    · cases h
    · exact ⟨List.mem_cons_of_mem _ (ih h).1, (ih h).2⟩
    · rename_i found hfound
      obtain ⟨rfl, rfl⟩ := Prod.mk.inj (Option.some.inj (Except.ok.inj h))
      exact ⟨List.mem_cons_self, hfound⟩

/-! ### Records of drafts -/

namespace Resolver

variable {resolver : Resolver} {payload : Text}

/-- No image rule matches the link. -/
def NoRuleFor (resolver : Resolver) (link : Text) : Prop :=
  ∀ rule ∈ resolver.settings.rules, rule.matcher.holds link = false

section

variable (h : ∀ handler ∈ resolver.handlers, handler.IsBuiltin) (draft : Draft)

include h

theorem complete_eq :
    resolver.complete draft =
      { draft.fill resolver.normalize with image := (resolver.complete draft).image } := by
  have hcorrect := (Chain.redressed_correct h (draft.fill resolver.normalize)).eq
  unfold complete ImageRule.apply Chain.complete
  split
  · dsimp only
    rw [hcorrect]
  · exact hcorrect

theorem complete_link : (resolver.complete draft).link = resolver.normalize draft.link := by
  rw [complete_eq h]
  rfl

theorem complete_text : (resolver.complete draft).text = (draft.fill resolver.normalize).text := by
  rw [complete_eq h]

theorem complete_kind : (resolver.complete draft).kind = (draft.fill resolver.normalize).kind := by
  rw [complete_eq h]

theorem complete_of_noRule (hrule : resolver.NoRuleFor (resolver.normalize draft.link)) :
    resolver.complete draft = Chain.complete resolver.handlers resolver.normalize draft := by
  have hlink : (Chain.complete resolver.handlers resolver.normalize draft).link =
      resolver.normalize draft.link := by
    rw [Chain.complete, (Chain.redressed_correct h (draft.fill resolver.normalize)).eq]
    rfl
  have hnone : ImageRule.first? resolver.settings.rules
      (Chain.complete resolver.handlers resolver.normalize draft).link = none := by
    rw [ImageRule.first?, List.find?_eq_none, hlink]
    exact fun rule hmem => by simp [hrule rule hmem]
  rw [complete, ImageRule.apply, hnone]

/-- The image is that of a rule that matches, an avatar, or the one that the record was filled in with. -/
theorem complete_image :
    (∃ rule ∈ resolver.settings.rules, (resolver.complete draft).image = rule.image) ∨
      (∃ login, login ≠ [] ∧ (resolver.complete draft).image = Handler.avatarUrl login) ∨
      (resolver.complete draft).image = (draft.fill resolver.normalize).image := by
  have himage := (Chain.redressed_correct h (draft.fill resolver.normalize)).image
  unfold complete ImageRule.apply Chain.complete
  split
  · rename_i rule hrule
    exact Or.inl ⟨rule, List.mem_of_find?_eq_some hrule, rfl⟩
  · exact Or.inr himage.symm

end

theorem WonBy.exists_draft {handler : Handler} {record : Record} (hwon : resolver.WonBy handler payload)
    (h : resolver.resolve payload = .ok (some record)) :
    ∃ draft, handler.resolve payload = .ok (some draft) ∧ record = resolver.complete draft := by
  obtain ⟨draft, hdraft, -, hresolve⟩ := hwon
  rw [hresolve] at h
  exact ⟨draft, hdraft, (Option.some.inj (Except.ok.inj h)).symm⟩

theorem exists_wonBy {record : Record} (h : resolver.resolve payload = .ok (some record)) :
    ∃ handler ∈ resolver.handlers, ∃ draft, handler.resolve payload = .ok (some draft) ∧
      resolver.WonBy handler payload ∧ resolver.parse payload = .ok (some draft) ∧
      record = resolver.complete draft := by
  cases hanswer : Chain.answer? resolver.handlers payload with
  | error fault =>
    rw [resolve, parse, Chain.draft?, hanswer] at h
    cases h
  | ok answer =>
    rw [resolve_of_answer? hanswer] at h
    cases answer with
    | none => cases h
    | some won =>
      obtain ⟨handler, draft⟩ := won
      obtain ⟨hmem, hdraft⟩ := Chain.of_answer?_eq_some hanswer
      refine ⟨handler, hmem, draft, hdraft, ⟨draft, hdraft, hanswer, ?_⟩, ?_, ?_⟩
      · exact resolve_of_answer? hanswer
      · rw [parse, Chain.draft?, hanswer]
        rfl
      · exact (Option.some.inj (Except.ok.inj h)).symm

end Resolver

end BraceLink
