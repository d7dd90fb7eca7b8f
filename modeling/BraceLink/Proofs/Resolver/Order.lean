import BraceLink.Proofs.Handler.GitHub
import BraceLink.Proofs.Resolver.Dispatch
import Mathlib.Data.List.Basic

/-!
# The order of built-in handlers

A chain is used twice: the first of its handlers that answers gives the draft, and all of them look at the record
that the draft becomes. Of built-in handlers only the one of GitHub mentions changes a record, and a second look
changes nothing (`Handler.repaired_repaired`), so for the second use it matters only whether it is there
(`correct_handlers`). For the first use the two handlers of mentions never compete (`platform_or_github_declines`),
so all that matters is which handlers are there and which of the handler of links and a handler of mentions
comes first (`Alike.find?_eq`). `resolve_of_alike` puts the two together.
-/

namespace BraceLink

/-! ### The first element of a list with a property -/

section

variable {α : Type} [DecidableEq α] {p : α → Bool} {l : List α} {a : α}

theorem find?_eq_some_iff_idxOf :
    l.find? p = some a ↔ a ∈ l ∧ p a = true ∧ ∀ b ∈ l, p b = true → l.idxOf a ≤ l.idxOf b := by
  induction l with
  | nil => simp
  | cons c l ih =>
    by_cases hc : p c = true
    · rw [List.find?_cons_of_pos hc, Option.some.injEq]
      constructor
      · rintro rfl
        refine ⟨List.mem_cons_self, hc, fun b _ _ => ?_⟩
        rw [List.idxOf_cons_self]
        exact Nat.zero_le _
      · rintro ⟨-, -, hfirst⟩
        have hle := hfirst c List.mem_cons_self hc
        rw [List.idxOf_cons_self, Nat.le_zero] at hle
        by_contra hne
        rw [List.idxOf_cons_ne _ hne] at hle
        omega
    · rw [List.find?_cons_of_neg hc, ih]
      have hne : ∀ b, p b = true → b ≠ c := fun b hb hbc => hc (hbc ▸ hb)
      constructor
      · rintro ⟨hmem, ha, hfirst⟩
        refine ⟨List.mem_cons_of_mem _ hmem, ha, fun b hb hpb => ?_⟩
        rw [List.idxOf_cons_ne _ (hne a ha).symm, List.idxOf_cons_ne _ (hne b hpb).symm]
        have := hfirst b (List.mem_of_ne_of_mem (hne b hpb) hb) hpb
        omega
      · rintro ⟨hmem, ha, hfirst⟩
        refine ⟨List.mem_of_ne_of_mem (hne a ha) hmem, ha, fun b hb hpb => ?_⟩
        have hle := hfirst b (List.mem_cons_of_mem _ hb) hpb
        rw [List.idxOf_cons_ne _ (hne a ha).symm, List.idxOf_cons_ne _ (hne b hpb).symm] at hle
        omega

/-- What stands behind a beginning decides which of two elements comes first only if neither is in the
beginning. -/
theorem idxOf_lt_idxOf_append (front l : List α) (a b : α) :
    (front ++ l).idxOf a < (front ++ l).idxOf b ↔
      front.idxOf a < front.idxOf b ∨ a ∉ front ∧ b ∉ front ∧ l.idxOf a < l.idxOf b := by
  have hmem : ∀ x, x ∈ front ↔ front.idxOf x < front.length := fun x => List.idxOf_lt_length_iff.symm
  have hle : ∀ x, front.idxOf x ≤ front.length := fun x => List.idxOf_le_length
  have ha := hle a
  have hb := hle b
  rw [List.idxOf_append, List.idxOf_append]
  simp only [hmem]
  split_ifs <;> omega

/-- A stretch that holds only the second of two elements lets the first come first only in front of it. -/
theorem idxOf_lt_idxOf_around {a b : α} {middle : List α} (ha : a ∉ middle) (hb : b ∈ middle)
    (before after : List α) :
    (before ++ middle ++ after).idxOf a < (before ++ middle ++ after).idxOf b ↔
      before.idxOf a < before.idxOf b := by
  have hmiddle : ¬ middle.idxOf a < middle.idxOf b := by
    rw [List.idxOf_eq_length ha]
    exact Nat.not_lt.mpr List.idxOf_le_length
  have hmem : b ∈ before ++ middle := List.mem_append_right _ hb
  rw [idxOf_lt_idxOf_append, idxOf_lt_idxOf_append]
  simp only [hmiddle, hmem, not_true_eq_false, and_false, false_and, or_false]

end

/-! ### Names of built-in handlers -/

/-- The built-in handlers, as a chain names them. -/
inductive DefaultName where
  | named
  | platform
  | github
  deriving DecidableEq

namespace DefaultName

def text : DefaultName → Text
  | .named => "link"
  | .platform => "platform-at"
  | .github => "github-at"

def handler (settings : Settings) : DefaultName → Handler
  | .named => Handler.named settings.links
  | .platform => Handler.platform settings.platforms
  | .github => Handler.github

/-- What the handler makes of a payload. -/
def draft? (settings : Settings) (payload : Text) : DefaultName → Option Draft
  | .named => Handler.namedDraft settings.links payload
  | .platform => Handler.platformDraft settings.platforms payload
  | .github => Handler.githubDraft payload

theorem resolve_handler (settings : Settings) (payload : Text) (name : DefaultName) :
    (name.handler settings).resolve payload = .ok (name.draft? settings payload) := by
  cases name <;> rfl

/-- The two lists hold the same names, and in both the first handler of links stands on the same side of the
first handler of each kind of mentions. -/
structure Alike (first second : List DefaultName) : Prop where
  mem_iff : ∀ name, name ∈ first ↔ name ∈ second
  side_iff : ∀ mention, mention ≠ .named → .named ∈ first → mention ∈ first →
    (first.idxOf .named < first.idxOf mention ↔ second.idxOf .named < second.idxOf mention)

variable {first second : List DefaultName}

theorem Alike.symm (h : Alike first second) : Alike second first where
  mem_iff name := (h.mem_iff name).symm
  side_iff mention hmention hnamed hmem :=
    (h.side_iff mention hmention ((h.mem_iff _).mpr hnamed) ((h.mem_iff _).mpr hmem)).symm

theorem alike_repeat {front : List DefaultName} {name : DefaultName} (h : name ∈ front)
    (after : List DefaultName) : Alike (front ++ name :: after) (front ++ after) where
  mem_iff other := by
    simp only [List.mem_append, List.mem_cons]
    constructor
    · rintro (hfront | rfl | hafter)
      · exact Or.inl hfront
      · exact Or.inl h
      · exact Or.inr hafter
    · exact Or.imp_right Or.inr
  side_iff mention _ _ _ := by
    rw [idxOf_lt_idxOf_append, idxOf_lt_idxOf_append]
    refine or_congr_right (and_congr_right fun hnamed => and_congr_right fun hmention => ?_)
    have hne : ∀ other, other ∉ front → name ≠ other := fun other hother heq => hother (heq ▸ h)
    rw [List.idxOf_cons_ne _ (hne _ hnamed), List.idxOf_cons_ne _ (hne _ hmention), Nat.succ_lt_succ_iff]

/-- Two handlers of mentions may change places if no handler of links stands between them. -/
theorem alike_exchange (before : List DefaultName) {between : List DefaultName} (h : .named ∉ between)
    (after : List DefaultName) :
    Alike (before ++ (.platform :: between ++ [.github]) ++ after)
      (before ++ (.github :: between ++ [.platform]) ++ after) where
  mem_iff name := by
    simp only [List.mem_append, List.mem_cons, List.not_mem_nil, or_false]
    tauto
  side_iff mention hmention _ _ := by
    have hfree : ∀ {x y : DefaultName}, x ≠ .named → y ≠ .named → .named ∉ x :: between ++ [y] := by
      intro x y hx hy
      simp [h, hx.symm, hy.symm]
    have hmem : mention = .platform ∨ mention = .github := by
      cases mention <;> simp_all
    rw [idxOf_lt_idxOf_around (hfree (by decide) (by decide)) (by rcases hmem with rfl | rfl <;> simp),
      idxOf_lt_idxOf_around (hfree (by decide) (by decide)) (by rcases hmem with rfl | rfl <;> simp)]

/-! ### Which handler answers -/

theorem platform_or_github_declines (settings : Settings) (payload : Text) :
    DefaultName.platform.draft? settings payload = none ∨ DefaultName.github.draft? settings payload = none := by
  simp only [draft?, Handler.platformDraft, Handler.githubDraft]
  cases hmention : Handler.mention? payload with
  | none => exact Or.inl rfl
  | some mention =>
    by_cases hcolon : ':' ∈ mention
    · exact Or.inr (if_pos hcolon)
    · left
      simp only [Text.cut_of_not_mem hcolon]

theorem Alike.find?_of_find? {p : DefaultName → Bool} (hone : p .platform = false ∨ p .github = false)
    (h : Alike first second) {name : DefaultName} (hfound : first.find? p = some name) :
    second.find? p = some name := by
  obtain ⟨hmem, hname, hfirst⟩ := find?_eq_some_iff_idxOf.mp hfound
  refine find?_eq_some_iff_idxOf.mpr ⟨(h.mem_iff name).mp hmem, hname, fun other hother hp => ?_⟩
  rw [← h.mem_iff other] at hother
  have hle := hfirst other hother hp
  by_cases heq : name = other
  · rw [heq]
  · -- of two names that both answer one is that of links
    have hnamed : name = .named ∨ other = .named := by
      cases name <;> cases other <;> simp_all
    rcases hnamed with rfl | rfl
    · have hside := h.side_iff other (Ne.symm heq) hmem hother
      have hne : first.idxOf .named ≠ first.idxOf other := fun hidx => heq ((List.idxOf_inj hmem).mp hidx)
      omega
    · have hside := h.side_iff name heq hother hmem
      omega

theorem Alike.find?_eq {p : DefaultName → Bool} (hone : p .platform = false ∨ p .github = false)
    (h : Alike first second) : first.find? p = second.find? p :=
  Option.ext fun _ => ⟨h.find?_of_find? hone, h.symm.find?_of_find? hone⟩

/-! ### The two uses of a chain -/

variable (settings : Settings) (names : List DefaultName)

theorem draft?_handlers (payload : Text) :
    Chain.draft? (names.map (handler settings)) payload =
      .ok ((names.find? fun name => (name.draft? settings payload).isSome).bind
        (DefaultName.draft? settings payload)) := by
  induction names with
  | nil => rfl
  | cons name names ih =>
    rw [List.map_cons, Chain.draft?_cons, resolve_handler]
    cases hdraft : name.draft? settings payload with
    | none => rw [List.find?_cons_of_neg (by simp [hdraft])]; exact ih
    | some draft => rw [List.find?_cons_of_pos (by simp [hdraft]), Option.bind_some, hdraft]

/-- Of built-in handlers only the one of GitHub mentions changes records, and it does so once. -/
theorem correct_handlers (record : Record) :
    Chain.correct (names.map (handler settings)) record =
      if .github ∈ names then Handler.repaired Handler.reservedRoutes record else record := by
  induction names generalizing record with
  | nil => rfl
  | cons name names ih =>
    rw [List.map_cons, Chain.correct_cons, ih]
    cases name with
    | named => simp [handler, Handler.named, Handler.pure]
    | platform => simp [handler, Handler.platform, Handler.pure]
    | github =>
      have hfirst : ((DefaultName.github.handler settings).postprocess record).getD record =
          Handler.repaired Handler.reservedRoutes record := rfl
      rw [hfirst, if_pos List.mem_cons_self, Handler.repaired_repaired, ite_self]

end DefaultName

/-! ### Chains of names -/

/-- The settings with a chain of built-in handlers. -/
def Settings.withNames (settings : Settings) (names : List DefaultName) : Settings :=
  { settings with chain := some (names.map fun name => .name name.text) }

variable {registry : Registry}

theorem Registry.HasDefaults.build_text (hdefaults : registry.HasDefaults) (settings : Settings)
    (name : DefaultName) : registry.build settings (.name name.text) = .ok (name.handler settings) := by
  cases name with
  | named => exact Registry.build_name hdefaults.named rfl
  | platform => exact Registry.build_name hdefaults.platform rfl
  | github => exact Registry.build_name hdefaults.github rfl

theorem Resolver.build_withNames (hdefaults : registry.HasDefaults) (settings : Settings)
    (names : List DefaultName) (normalize : Text → Text) :
    Resolver.build registry (settings.withNames names) normalize =
      .ok ⟨settings.withNames names, names.map (DefaultName.handler settings), normalize⟩ := by
  refine Resolver.build_eq_ok normalize ?_
  rw [Settings.entries, Settings.withNames, Option.getD_some, List.forall₂_map_left_iff,
    List.forall₂_map_right_iff, List.forall₂_same]
  exact fun name _ => hdefaults.build_text _ name

/-- **Which chains of built-in handlers do the same.** Two chains with the same handlers, in which the first
handler of links stands on the same side of the first handler of each kind of mentions, resolve every payload
alike. So a handler may be repeated behind itself, and two handlers of mentions may change places if no handler
of links stands between them. -/
theorem resolve_of_alike (registry : Registry) (settings : Settings) (normalize : Text → Text)
    (hdefaults : registry.HasDefaults) :
    ∃ resolver : List DefaultName → Resolver,
      (∀ names, Resolver.build registry (settings.withNames names) normalize = .ok (resolver names)) ∧
      (∀ first second, DefaultName.Alike first second → ∀ payload,
        (resolver first).resolve payload = (resolver second).resolve payload) ∧
      (∀ front name after, name ∈ front → ∀ payload,
        (resolver (front ++ name :: after)).resolve payload = (resolver (front ++ after)).resolve payload) ∧
      (∀ before between after, .named ∉ between → ∀ payload,
        (resolver (before ++ (.platform :: between ++ [.github]) ++ after)).resolve payload =
          (resolver (before ++ (.github :: between ++ [.platform]) ++ after)).resolve payload) := by
  let resolver : List DefaultName → Resolver := fun names =>
    ⟨settings.withNames names, names.map (DefaultName.handler settings), normalize⟩
  have halike : ∀ first second, DefaultName.Alike first second → ∀ payload,
      (resolver first).resolve payload = (resolver second).resolve payload := by
    intro first second h payload
    refine Resolver.resolve_congr rfl rfl ?_ fun record => ?_
    · have hone : (DefaultName.platform.draft? settings payload).isSome = false ∨
          (DefaultName.github.draft? settings payload).isSome = false := by
        simpa using DefaultName.platform_or_github_declines settings payload
      rw [DefaultName.draft?_handlers, DefaultName.draft?_handlers, h.find?_eq hone]
    · rw [DefaultName.correct_handlers, DefaultName.correct_handlers]
      simp only [h.mem_iff]
  refine ⟨resolver, fun names => Resolver.build_withNames hdefaults settings names normalize, halike,
    fun front name after hname => ?_, fun before between after hfree => ?_⟩
  · exact halike _ _ (DefaultName.alike_repeat hname after)
  · exact halike _ _ (DefaultName.alike_exchange before hfree after)

/-- A mention that also gives an address, in chains that ask a handler of mentions before the one of links. -/
theorem resolve_of_alike_mention :
    Registry.builtin.HasDefaults ∧
    DefaultName.Alike [.platform, .github, .named, .platform] [.github, .platform, .named] ∧
    DefaultName.github ∈ [DefaultName.named, .github] ∧ DefaultName.named ∉ [DefaultName.platform] ∧
    ∃ resolver : List DefaultName → Resolver,
      (∀ names, Resolver.build Registry.builtin (({} : Settings).withNames names) = .ok (resolver names)) ∧
      (resolver [.platform, .github, .named, .platform]).resolve "@a|http://b.c" =
        (resolver [.github, .platform, .named]).resolve "@a|http://b.c" ∧
      (resolver [.named, .github, .github, .platform]).resolve "@a|http://b.c" =
        (resolver [.named, .github, .platform]).resolve "@a|http://b.c" ∧
      (resolver [.platform, .platform, .github, .named]).resolve "@a|http://b.c" =
        (resolver [.github, .platform, .platform, .named]).resolve "@a|http://b.c" := by
  obtain ⟨resolver, hbuild, halike, hrepeat, hexchange⟩ :=
    resolve_of_alike Registry.builtin {} Url.normalize Registry.builtin_hasDefaults
  have hchains : DefaultName.Alike [.platform, .github, .named, .platform] [.github, .platform, .named] := by
    refine ⟨fun name => ?_, fun mention hmention _ _ => ?_⟩
    · cases name <;> decide
    · cases mention
      · exact absurd rfl hmention
      · decide
      · decide
  refine ⟨Registry.builtin_hasDefaults, hchains, by decide, by decide, resolver, hbuild, halike _ _ hchains _, ?_, ?_⟩
  · exact hrepeat [.named, .github] .github [.platform] (by decide) _
  · exact hexchange [] [.platform] [.named] (by decide) _

/-- With the handler of links between them the two handlers of mentions may not change places, and a handler may not
be repeated in front of one that would answer first. -/
theorem resolve_exchanged_or_repeated :
    ∃ resolver : List DefaultName → Resolver,
      (∀ names, Resolver.build Registry.builtin (({} : Settings).withNames names) = .ok (resolver names)) ∧
      (resolver [.platform, .named, .github]).resolve "@a|http://b.c" ≠
        (resolver [.github, .named, .platform]).resolve "@a|http://b.c" ∧
      (resolver [.named, .github]).resolve "@a|http://b.c" ≠
        (resolver [.github, .named, .github]).resolve "@a|http://b.c" := by
  let resolver : List DefaultName → Resolver := fun names =>
    ⟨({} : Settings).withNames names, names.map (DefaultName.handler {}), Url.normalize⟩
  refine ⟨resolver, fun names => Resolver.build_withNames Registry.builtin_hasDefaults {} names Url.normalize, ?_, ?_⟩
  · decide +kernel
  · decide +kernel

end BraceLink
