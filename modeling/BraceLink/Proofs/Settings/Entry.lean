import BraceLink.Proofs.Settings.Check
import BraceLink.Proofs.Settings.Plain

/-!
# Entries of settings

Which values stand for a target, a profile, a rule or an entry of a chain (`IsTarget`, `IsProfile`, `IsRule`,
`IsChainEntry`), in every spelling of their keys. Each reader gives what the value stands for, and where the
value stands for nothing, the error blames the path of the entry. Only the text of a pattern can lead to another
error (`AsksTooMuch`).
-/

namespace BraceLink.Settings

/-! ### What values stand for -/

def IsText (value : Value) (text : Text) : Prop := value = .text text ∧ text ≠ []

/-- A text that is not empty, or nothing. -/
inductive IsOptionalText : Value → Option Text → Prop
  | null : IsOptionalText .null none
  | text {value : Value} {text : Text} (h : IsText value text) : IsOptionalText value (some text)

/-- A complete target, a link, or a mapping with a link and possibly an image. -/
inductive IsTarget : Value → Target → Prop
  | complete (target : Target) : IsTarget (.target target) target
  | link {value : Value} {link : Text} (h : IsText value link) : IsTarget value { link }
  | map {entries : List (Value × Value)} {value : Value} {link : Text} {image : Option Text}
    (hkey : Value.get? entries "link" = some value) (hlink : IsText value link)
    (himage : IsOptionalText (pick entries targetImageKeys) image) : IsTarget (.map entries) { link, image }

/-- A complete profile, or a mapping with a link, an avatar and possibly a name to show. -/
inductive IsProfile : Value → Profile → Prop
  | complete (profile : Profile) : IsProfile (.profile profile) profile
  | map {entries : List (Value × Value)} {value : Value} {link avatar : Text} {displayName : Option Text}
    (hkey : Value.get? entries "link" = some value) (hlink : IsText value link)
    (havatar : IsText (pick entries avatarKeys) avatar)
    (hdisplayName : IsOptionalText (pick entries displayNameKeys) displayName) :
    IsProfile (.map entries) { link, avatar, displayName }

/-- A complete pattern, or a link. -/
inductive IsMatcher : Value → Matcher → Prop
  | pattern (pattern : Pattern) : IsMatcher (.pattern pattern) (.pattern pattern)
  | link {value : Value} {link : Text} (h : IsText value link) : IsMatcher value (.exact link)

inductive IsPatternRule : Value → (source image : Text) → Prop
  | map {entries : List (Value × Value)} {value : Value} {source image : Text}
    (himage : IsText (pick entries ruleImageKeys) image) (hkey : Value.get? entries "pattern" = some value)
    (hsource : IsText value source) : IsPatternRule (.map entries) source image

/-- A complete rule, a mapping with an image and either a pattern or a link, or a pair of a matcher and an
image. -/
inductive IsRule : Value → ImageRule → Prop
  | complete (rule : ImageRule) : IsRule (.rule rule) rule
  | pattern {value : Value} {source image : Text} {pattern : Pattern} (h : IsPatternRule value source image)
    (hcompile : Pattern.compile source = .ok pattern) : IsRule value { matcher := .pattern pattern, image }
  | link {entries : List (Value × Value)} {value : Value} {link image : Text}
    (himage : IsText (pick entries ruleImageKeys) image) (hnone : Value.get? entries "pattern" = none)
    (hkey : Value.get? entries "match" = some value) (hlink : IsText value link) :
    IsRule (.map entries) { matcher := .exact link, image }
  | list {first second : Value} {matcher : Matcher} {image : Text} (hmatcher : IsMatcher first matcher)
    (himage : IsText second image) : IsRule (.list [first, second]) { matcher, image }
  | tuple {first second : Value} {matcher : Matcher} {image : Text} (hmatcher : IsMatcher first matcher)
    (himage : IsText second image) : IsRule (.tuple [first, second]) { matcher, image }

/-- The pattern of a rule cannot be compiled although nothing is wrong with its syntax. -/
def AsksTooMuch (value : Value) : Prop :=
  ∃ source image error, IsPatternRule value source image ∧ Pattern.compile source = .error error ∧
    ∀ cause offset, error ≠ .malformed cause offset

/-- The name of a handler, or a complete handler. -/
inductive IsChainEntry : Value → ChainEntry → Prop
  | name (name : Text) : IsChainEntry (.text name) (.name name)
  | handler (handler : Handler) : IsChainEntry (.handler handler) (.handler handler)

theorem bind_eq_error {α β : Type} {result : Result α} {next : α → Result β} {error : Error}
    (h : (result >>= next) = .error error) :
    result = .error error ∨ ∃ a, result = .ok a ∧ next a = .error error := by
  cases result with
  | ok a => exact Or.inr ⟨a, rfl, h⟩
  | error found =>
    cases h
    exact Or.inl rfl

/-- All errors blame the path. -/
abbrev RefusesAt {α : Type} (path : Text) (result : Result α) : Prop :=
  Outcome (fun _ => True) (fun error => error.verdict = .defect path) result

/-! ### Texts -/

theorem readText_eq_ok_iff {path what : Text} {value : Value} {text : Text} :
    readText path what value = .ok text ↔ IsText value text := by
  constructor
  · intro h
    refine ⟨?_, readText_ne_nil h⟩
    unfold readText at h
    split at h
    · cases h
      rfl
    · cases h
  · rintro ⟨rfl, hne⟩
    cases text with
    | nil => exact absurd rfl hne
    | cons c rest => rfl

theorem readText_refusesAt (path what : Text) (value : Value) : RefusesAt path (readText path what value) := by
  unfold readText
  split
  · trivial
  · exact rfl

theorem readOptionalText_eq_ok_iff {path what : Text} {value : Value} {text : Option Text} :
    readOptionalText path what value = .ok text ↔ IsOptionalText value text := by
  constructor
  · intro h
    unfold readOptionalText at h
    split at h
    · cases h
      exact .null
    · cases hread : readText path what value with
      | error error =>
        rw [hread] at h
        cases h
      | ok found =>
        rw [hread] at h
        cases h
        exact .text (readText_eq_ok_iff.mp hread)
  · intro h
    cases h with
    | null => rfl
    | @text _ found h =>
      obtain rfl : value = .text found := h.1
      show (readText path what (.text found)).map some = _
      rw [readText_eq_ok_iff.mpr h]
      rfl

theorem readOptionalText_refusesAt (path what : Text) (value : Value) :
    RefusesAt path (readOptionalText path what value) := by
  unfold readOptionalText
  split
  · trivial
  · exact (readText_refusesAt path what _).map fun _ _ => trivial

/-! ### Targets and profiles -/

theorem readTarget_eq_ok_iff {path : Text} {value : Value} {target : Target} :
    readTarget path value = .ok target ↔ IsTarget value target := by
  constructor
  · intro h
    unfold readTarget at h
    split at h
    · cases h
      exact .complete _
    · obtain ⟨link, hlink, h⟩ := bind_eq_ok h
      cases h
      exact .link (readText_eq_ok_iff.mp hlink)
    · split at h
      · cases h
      · next hkey =>
        obtain ⟨link, hlink, h⟩ := bind_eq_ok h
        obtain ⟨image, himage, h⟩ := bind_eq_ok h
        cases h
        exact .map hkey (readText_eq_ok_iff.mp hlink) (readOptionalText_eq_ok_iff.mp himage)
    · cases h
  · intro h
    cases h with
    | complete => rfl
    | @link _ link h =>
      obtain rfl : value = .text link := h.1
      simp only [readTarget, readText_eq_ok_iff.mpr h]
      rfl
    | map hkey hlink himage =>
      simp only [readTarget, hkey, readText_eq_ok_iff.mpr hlink, readOptionalText_eq_ok_iff.mpr himage]
      rfl

theorem readTarget_refusesAt (path : Text) (value : Value) : RefusesAt path (readTarget path value) := by
  unfold readTarget
  split
  · trivial
  · exact (readText_refusesAt path _ _).bind fun _ _ => trivial
  · split
    · exact rfl
    · exact (readText_refusesAt path _ _).bind fun _ _ =>
        (readOptionalText_refusesAt path _ _).bind fun _ _ => trivial
  · exact rfl

theorem readProfile_eq_ok_iff {path : Text} {value : Value} {profile : Profile} :
    readProfile path value = .ok profile ↔ IsProfile value profile := by
  constructor
  · intro h
    unfold readProfile at h
    split at h
    · cases h
      exact .complete _
    · split at h
      · cases h
      · cases h
      · next hkey _ =>
        obtain ⟨link, hlink, h⟩ := bind_eq_ok h
        obtain ⟨avatar, havatar, h⟩ := bind_eq_ok h
        obtain ⟨displayName, hdisplayName, h⟩ := bind_eq_ok h
        cases h
        exact .map hkey (readText_eq_ok_iff.mp hlink) (readText_eq_ok_iff.mp havatar)
          (readOptionalText_eq_ok_iff.mp hdisplayName)
    · cases h
  · intro h
    cases h with
    | complete => rfl
    | @map entries _ _ avatar _ hkey hlink havatar hdisplayName =>
      have hgiven : pick entries avatarKeys = .text avatar := havatar.1
      rw [hgiven] at havatar
      simp only [readProfile, hkey, hgiven, readText_eq_ok_iff.mpr hlink, readText_eq_ok_iff.mpr havatar,
        readOptionalText_eq_ok_iff.mpr hdisplayName]
      rfl

theorem readProfile_refusesAt (path : Text) (value : Value) : RefusesAt path (readProfile path value) := by
  unfold readProfile
  split
  · trivial
  · split
    · exact rfl
    · exact rfl
    · exact (readText_refusesAt path _ _).bind fun _ _ => (readText_refusesAt path _ _).bind fun _ _ =>
        (readOptionalText_refusesAt path _ _).bind fun _ _ => trivial
  · exact rfl

/-! ### Rules -/

section

variable {path : Text} {value first second : Value} {rule : ImageRule}

theorem readPair_eq_ok_iff :
    readPair path first second = .ok rule ↔ IsMatcher first rule.matcher ∧ IsText second rule.image := by
  constructor
  · intro h
    unfold readPair at h
    dsimp only at h
    split at h
    · obtain ⟨matcher, hmatcher, h⟩ := bind_eq_ok h
      obtain ⟨image, himage, h⟩ := bind_eq_ok h
      cases h
      cases hmatcher
      exact ⟨.pattern _, readText_eq_ok_iff.mp himage⟩
    · obtain ⟨link, hlink, h⟩ := bind_eq_ok h
      obtain ⟨matcher, hmatcher, h⟩ := bind_eq_ok h
      obtain ⟨image, himage, h⟩ := bind_eq_ok h
      cases hmatcher
      cases h
      exact ⟨.link (readText_eq_ok_iff.mp hlink), readText_eq_ok_iff.mp himage⟩
  · obtain ⟨matcher, image⟩ := rule
    rintro ⟨hmatcher, himage⟩
    cases hmatcher with
    | pattern =>
      simp only [readPair, readText_eq_ok_iff.mpr himage]
      rfl
    | @link _ link h =>
      obtain rfl : first = .text link := h.1
      simp only [readPair, readText_eq_ok_iff.mpr himage, readText_eq_ok_iff.mpr h]
      rfl

theorem readPair_refusesAt (path : Text) (first second : Value) : RefusesAt path (readPair path first second) := by
  have himage : ∀ matcher : Matcher,
      RefusesAt path (do return ({ matcher, image := ← readText path "image" second } : ImageRule)) := fun _ =>
    (readText_refusesAt path _ _).bind fun _ _ => trivial
  unfold readPair
  dsimp only
  split
  · exact himage _
  · exact (readText_refusesAt path _ _).bind fun _ _ => himage _

theorem readPattern_eq {source : Text} (h : IsText value source) :
    readPattern path value =
      match Pattern.compile source with
      | .ok pattern => .ok pattern
      | .error (.malformed cause offset) => refuse path (.badPattern source cause offset)
      | .error error => .error (.pattern error) := by
  rw [readPattern, readText_eq_ok_iff.mpr h]
  rfl

theorem IsPatternRule.readRule_eq {source image : Text} (h : IsPatternRule value source image) :
    readRule path value =
      match Pattern.compile source with
      | .ok pattern => .ok { matcher := .pattern pattern, image }
      | .error (.malformed cause offset) => refuse path (.badPattern source cause offset)
      | .error error => .error (.pattern error) := by
  cases h with
  | map himage hkey hsource =>
    simp only [readRule, hkey, readText_eq_ok_iff.mpr himage, readPattern_eq hsource]
    cases Pattern.compile source with
    | ok pattern => rfl
    | error error => cases error <;> rfl

theorem readRule_eq_ok_iff : readRule path value = .ok rule ↔ IsRule value rule := by
  constructor
  · intro h
    unfold readRule at h
    split at h
    · cases h
      exact .complete _
    · obtain ⟨image, himage, h⟩ := bind_eq_ok h
      rw [readText_eq_ok_iff] at himage
      split at h
      · next hkey =>
        obtain ⟨pattern, hpattern, h⟩ := bind_eq_ok h
        obtain ⟨source, hsource, hpattern⟩ := bind_eq_ok hpattern
        cases h
        split at hpattern
        · next hcompile =>
          cases hpattern
          exact .pattern (.map himage hkey (readText_eq_ok_iff.mp hsource)) hcompile
        · cases hpattern
        · cases hpattern
      · next hnone hkey =>
        obtain ⟨link, hlink, h⟩ := bind_eq_ok h
        cases h
        exact .link himage hnone hkey (readText_eq_ok_iff.mp hlink)
      · cases h
    · obtain ⟨hmatcher, himage⟩ := readPair_eq_ok_iff.mp h
      exact .list hmatcher himage
    · obtain ⟨hmatcher, himage⟩ := readPair_eq_ok_iff.mp h
      exact .tuple hmatcher himage
    · obtain ⟨-, himage, -⟩ := readPair_eq_ok_iff.mp h
      cases himage
    · cases h
  · intro h
    cases h with
    | complete => rfl
    | pattern h hcompile =>
      rw [h.readRule_eq, hcompile]
    | link himage hnone hkey hlink =>
      simp only [readRule, hnone, hkey, readText_eq_ok_iff.mpr himage, readText_eq_ok_iff.mpr hlink]
      rfl
    | list hmatcher himage => exact readPair_eq_ok_iff.mpr ⟨hmatcher, himage⟩
    | tuple hmatcher himage => exact readPair_eq_ok_iff.mpr ⟨hmatcher, himage⟩

theorem readRule_of_asksTooMuch (path : Text) (h : AsksTooMuch value) :
    ∃ error, readRule path value = .error error ∧ error.verdict = .hugePattern := by
  obtain ⟨source, image, error, hrule, hcompile, hnot⟩ := h
  rw [hrule.readRule_eq, hcompile]
  cases error with
  | malformed cause offset => exact absurd rfl (hnot cause offset)
  | tooLarge => exact ⟨_, rfl, rfl⟩
  | unusable => exact ⟨_, rfl, rfl⟩

/-- The source of a pattern is the only part of a rule whose error can be of another kind. -/
theorem readRule_refusesAt (path : Text) (h : ¬ AsksTooMuch value) : RefusesAt path (readRule path value) := by
  by_cases hpattern : ∃ source image, IsPatternRule value source image
  · obtain ⟨source, image, hrule⟩ := hpattern
    rw [hrule.readRule_eq]
    cases hcompile : Pattern.compile source with
    | ok pattern => trivial
    | error error =>
      cases error with
      | malformed cause offset => exact rfl
      | tooLarge => exact absurd ⟨source, image, _, hrule, hcompile, fun _ _ => Pattern.Error.noConfusion⟩ h
      | unusable => exact absurd ⟨source, image, _, hrule, hcompile, fun _ _ => Pattern.Error.noConfusion⟩ h
  · refine .intro (fun _ _ => trivial) fun error h => ?_
    unfold readRule at h
    split at h
    · cases h
    · rcases bind_eq_error h with himage | ⟨image, himage, h⟩
      · exact (readText_refusesAt path _ _).of_error himage
      · split at h
        · next pattern hkey =>
          rcases bind_eq_error h with h | ⟨_, _, ⟨⟩⟩
          rcases bind_eq_error h with hsource | ⟨source, hsource, -⟩
          · exact (readText_refusesAt path _ _).of_error hsource
          · exact absurd
              ⟨source, image, .map (readText_eq_ok_iff.mp himage) hkey (readText_eq_ok_iff.mp hsource)⟩ hpattern
        · rcases bind_eq_error h with hlink | ⟨_, _, ⟨⟩⟩
          exact (readText_refusesAt path _ _).of_error hlink
        · cases h
          rfl
    · exact (readPair_refusesAt path _ _).of_error h
    · exact (readPair_refusesAt path _ _).of_error h
    · exact (readPair_refusesAt path _ _).of_error h
    · cases h
      rfl

end

theorem readChainEntry_eq_ok_iff {path : Text} {value : Value} {entry : ChainEntry} :
    readChainEntry path value = .ok entry ↔ IsChainEntry value entry := by
  constructor
  · intro h
    unfold readChainEntry at h
    split at h
    · cases h
      exact .name _
    · cases h
      exact .handler _
    · cases h
  · intro h
    cases h with
    | name => rfl
    | handler => rfl

theorem readChainEntry_refusesAt (path : Text) (value : Value) : RefusesAt path (readChainEntry path value) := by
  unfold readChainEntry
  split
  · trivial
  · trivial
  · exact rfl

/-! ### Checks -/

def standsCheck {α : Type} (Is : Value → α → Prop) (path : Text) (value : Value) : Check :=
  ⟨.defect path, ∃ a, Is value a⟩

def ruleChecks (path : Text) (value : Value) : List Check :=
  [⟨.hugePattern, ¬ AsksTooMuch value⟩, standsCheck IsRule path value]

theorem readTarget_follows (path : Text) (value : Value) :
    Follows [standsCheck IsTarget path value] (IsTarget value) (readTarget path value) :=
  .single (fun _ => readTarget_eq_ok_iff) (readTarget_refusesAt path value)

theorem readProfile_follows (path : Text) (value : Value) :
    Follows [standsCheck IsProfile path value] (IsProfile value) (readProfile path value) :=
  .single (fun _ => readProfile_eq_ok_iff) (readProfile_refusesAt path value)

theorem readChainEntry_follows (path : Text) (value : Value) :
    Follows [standsCheck IsChainEntry path value] (IsChainEntry value) (readChainEntry path value) :=
  .single (fun _ => readChainEntry_eq_ok_iff) (readChainEntry_refusesAt path value)

theorem readRule_follows (path : Text) (value : Value) :
    Follows (ruleChecks path value) (IsRule value) (readRule path value) := by
  by_cases h : AsksTooMuch value
  · exact .broken (fun hnot => hnot h) (readRule_of_asksTooMuch path h)
  · exact .held h (.single (fun _ => readRule_eq_ok_iff) (readRule_refusesAt path h))

end BraceLink.Settings
