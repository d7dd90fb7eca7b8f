import BraceLink.Proofs.Outcome
import BraceLink.Settings.Read
import Mathlib.Data.List.Forall2

/-!
# Checks in order

Reading settings is a sequence of checks, of which the first that does not hold decides about the error
(`Breaks`). A reader follows a list of checks if it succeeds where all of them hold, and fails as the first
broken one says where one does not (`Follows`). Readers that are put together follow the checks of their parts,
put together in the same order (`Follows.bind`, `Follows.mapM`).
-/

namespace BraceLink.Settings

/-- What kind of error a broken check leads to. -/
inductive Verdict where
  /-- Something is wrong at the path. -/
  | defect (path : Text)
  /-- A pattern asks for more than a pattern can count. -/
  | hugePattern
  /-- A key has more digits than can be written. -/
  | longNumber

def Error.verdict : Error → Verdict
  | .invalid _ path => .defect path
  | .pattern _ => .hugePattern
  | .longNumber => .longNumber

/-- Something that has to hold, and what it means if it does not. -/
structure Check where
  verdict : Verdict
  holds : Prop

/-- Of the checks in order, the first one that does not hold has the verdict. -/
inductive Breaks : List Check → Verdict → Prop
  | here {check : Check} {rest : List Check} (h : ¬ check.holds) : Breaks (check :: rest) check.verdict
  | there {check : Check} {rest : List Check} {verdict : Verdict} (h : check.holds) (hrest : Breaks rest verdict) :
    Breaks (check :: rest) verdict

namespace Breaks

variable {checks more : List Check} {verdict : Verdict}

theorem cons_iff {check : Check} :
    Breaks (check :: checks) verdict ↔
      (¬ check.holds ∧ check.verdict = verdict) ∨ (check.holds ∧ Breaks checks verdict) := by
  constructor
  · intro h
    cases h with
    | here h => exact Or.inl ⟨h, rfl⟩
    | there h hrest => exact Or.inr ⟨h, hrest⟩
  · rintro (⟨h, rfl⟩ | ⟨h, hrest⟩)
    · exact .here h
    · exact .there h hrest

theorem append_iff :
    Breaks (checks ++ more) verdict ↔
      Breaks checks verdict ∨ ((∀ check ∈ checks, check.holds) ∧ Breaks more verdict) := by
  induction checks with
  | nil =>
    constructor
    · exact fun h => Or.inr ⟨by simp, h⟩
    · rintro (⟨⟨⟩⟩ | ⟨-, h⟩)
      exact h
  | cons check checks ih =>
    rw [List.cons_append, cons_iff, cons_iff, ih, List.forall_mem_cons]
    tauto

theorem forall_or_exists (checks : List Check) :
    (∀ check ∈ checks, check.holds) ∨ ∃ verdict, Breaks checks verdict := by
  induction checks with
  | nil => exact Or.inl (by simp)
  | cons check checks ih =>
    by_cases h : check.holds
    · rcases ih with hall | ⟨verdict, hbreaks⟩
      · exact Or.inl (List.forall_mem_cons.mpr ⟨h, hall⟩)
      · exact Or.inr ⟨verdict, .there h hbreaks⟩
    · exact Or.inr ⟨_, .here h⟩

theorem not_forall (h : Breaks checks verdict) : ¬ ∀ check ∈ checks, check.holds := by
  induction h with
  | here h => exact fun hall => h (hall _ List.mem_cons_self)
  | there _ _ ih => exact fun hall => ih fun check hcheck => hall check (List.mem_cons_of_mem _ hcheck)

theorem exists_mem (h : Breaks checks verdict) : ∃ check ∈ checks, check.verdict = verdict := by
  induction h with
  | here _ => exact ⟨_, List.mem_cons_self, rfl⟩
  | there _ _ ih =>
    obtain ⟨check, hcheck, hverdict⟩ := ih
    exact ⟨check, List.mem_cons_of_mem _ hcheck, hverdict⟩

end Breaks

/-! ### Readers -/

/-- Where all checks hold, the result satisfies the condition; otherwise it is the error of the first broken
check. -/
structure Follows {α : Type} (checks : List Check) (P : α → Prop) (result : Result α) : Prop where
  ok : (∀ check ∈ checks, check.holds) → ∃ a, result = .ok a ∧ P a
  error : ∀ verdict, Breaks checks verdict → ∃ error, result = .error error ∧ error.verdict = verdict

namespace Follows

variable {α β : Type} {checks more : List Check} {P : α → Prop} {Q : β → Prop} {result : Result α}

theorem pure {a : α} (h : P a) : Follows [] P (.ok a) where
  ok _ := ⟨a, rfl, h⟩
  error := by rintro verdict ⟨⟩

theorem bind {next : α → Result β} (h : Follows checks P result)
    (hnext : ∀ a, P a → Follows more Q (next a)) : Follows (checks ++ more) Q (result >>= next) where
  ok hall := by
    obtain ⟨a, rfl, ha⟩ := h.ok fun check hcheck => hall check (List.mem_append_left _ hcheck)
    exact (hnext a ha).ok fun check hcheck => hall check (List.mem_append_right _ hcheck)
  error verdict hbreaks := by
    rcases Breaks.append_iff.mp hbreaks with hfirst | ⟨hall, hsecond⟩
    · obtain ⟨error, rfl, hverdict⟩ := h.error verdict hfirst
      exact ⟨error, rfl, hverdict⟩
    · obtain ⟨a, rfl, ha⟩ := h.ok hall
      exact (hnext a ha).error verdict hsecond

theorem imp {Q : α → Prop} (h : Follows checks P result) (himp : ∀ a, P a → Q a) : Follows checks Q result where
  ok hall := by
    obtain ⟨a, ha, hp⟩ := h.ok hall
    exact ⟨a, ha, himp a hp⟩
  error := h.error

theorem map {f : α → β} (h : Follows checks P result) (hmap : ∀ a, P a → Q (f a)) :
    Follows checks Q (result.map f) where
  ok hall := by
    obtain ⟨a, rfl, ha⟩ := h.ok hall
    exact ⟨f a, rfl, hmap a ha⟩
  error verdict hbreaks := by
    obtain ⟨error, rfl, hverdict⟩ := h.error verdict hbreaks
    exact ⟨error, rfl, hverdict⟩

theorem mapM {read : α → Result β} {checks : α → List Check} {P : α → β → Prop}
    (h : ∀ a, Follows (checks a) (P a) (read a)) (items : List α) :
    Follows (items.flatMap checks) (List.Forall₂ P items) (items.mapM read) := by
  induction items with
  | nil => exact .pure .nil
  | cons item rest ih =>
    rw [List.mapM_cons, List.flatMap_cons]
    refine (h item).bind fun b hb => ?_
    rw [← List.append_nil (rest.flatMap checks)]
    exact ih.bind fun bs hbs => .pure (.cons hb hbs)

theorem held {check : Check} (hcheck : check.holds) (h : Follows checks P result) :
    Follows (check :: checks) P result where
  ok hall := h.ok fun other hother => hall other (List.mem_cons_of_mem _ hother)
  error := by
    rintro verdict (⟨hnot⟩ | ⟨-, hrest⟩)
    · exact absurd hcheck hnot
    · exact h.error verdict hrest

theorem tail {check : Check} (hcheck : check.holds) (h : Follows (check :: checks) P result) :
    Follows checks P result where
  ok hall := h.ok (List.forall_mem_cons.mpr ⟨hcheck, hall⟩)
  error verdict hbreaks := h.error verdict (.there hcheck hbreaks)

theorem broken {check : Check} (hcheck : ¬ check.holds)
    (h : ∃ error, result = .error error ∧ error.verdict = check.verdict) : Follows (check :: checks) P result where
  ok hall := absurd (hall check List.mem_cons_self) hcheck
  error := by
    rintro verdict (⟨-⟩ | ⟨hheld, -⟩)
    · exact h
    · exact absurd hheld hcheck

/-- A single check that holds exactly where there is a result, and whose error is always of the same kind. -/
theorem single {verdict : Verdict} (hok : ∀ a, result = .ok a ↔ P a)
    (herror : Outcome (fun _ => True) (fun error => error.verdict = verdict) result) :
    Follows [⟨verdict, ∃ a, P a⟩] P result where
  ok hall := by
    obtain ⟨a, ha⟩ := hall _ List.mem_cons_self
    exact ⟨a, (hok a).mpr ha, ha⟩
  error := by
    rintro _ (⟨hnot⟩ | ⟨-, ⟨⟩⟩)
    cases result with
    | ok a => exact absurd ⟨a, (hok a).mp rfl⟩ hnot
    | error error => exact ⟨error, rfl, herror⟩

theorem exists_ok_iff (h : Follows checks P result) :
    (∃ a, result = .ok a) ↔ ∀ check ∈ checks, check.holds := by
  constructor
  · rintro ⟨a, rfl⟩
    rcases Breaks.forall_or_exists checks with hall | ⟨verdict, hbreaks⟩
    · exact hall
    · obtain ⟨error, herror, -⟩ := h.error verdict hbreaks
      cases herror
  · intro hall
    obtain ⟨a, ha, -⟩ := h.ok hall
    exact ⟨a, ha⟩

/-- The first broken check tells the kind of the error, and there is no error without a broken check. -/
theorem error_iff (h : Follows checks P result) (verdict : Verdict) :
    (∃ error, result = .error error ∧ error.verdict = verdict) ↔ Breaks checks verdict := by
  refine ⟨?_, h.error verdict⟩
  rintro ⟨error, rfl, rfl⟩
  rcases Breaks.forall_or_exists checks with hall | ⟨other, hbreaks⟩
  · obtain ⟨a, ha, -⟩ := h.ok hall
    cases ha
  · obtain ⟨found, hfound, rfl⟩ := h.error other hbreaks
    cases hfound
    exact hbreaks

theorem invalid_iff (h : Follows checks P result) (path : Text) :
    (∃ defect, result = .error (.invalid defect path)) ↔ Breaks checks (.defect path) := by
  rw [← h.error_iff]
  constructor
  · rintro ⟨defect, hresult⟩
    exact ⟨_, hresult, rfl⟩
  · rintro ⟨error, hresult, hverdict⟩
    cases error <;> cases hverdict
    exact ⟨_, hresult⟩

theorem pattern_iff (h : Follows checks P result) :
    (∃ error, result = .error (.pattern error)) ↔ Breaks checks .hugePattern := by
  rw [← h.error_iff]
  constructor
  · rintro ⟨error, hresult⟩
    exact ⟨_, hresult, rfl⟩
  · rintro ⟨error, hresult, hverdict⟩
    cases error <;> cases hverdict
    exact ⟨_, hresult⟩

theorem longNumber_iff (h : Follows checks P result) :
    result = .error .longNumber ↔ Breaks checks .longNumber := by
  rw [← h.error_iff]
  constructor
  · exact fun hresult => ⟨_, hresult, rfl⟩
  · rintro ⟨error, hresult, hverdict⟩
    cases error <;> cases hverdict
    exact hresult

end Follows

end BraceLink.Settings
