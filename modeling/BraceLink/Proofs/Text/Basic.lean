import BraceLink.Text.Basic
import Mathlib.Data.List.Basic

/-!
# Texts inside texts

What the operations on texts say about the text as a concatenation: a beginning that is dropped
(`dropPrefix?_eq_some_iff`), and a cut at the first separator (`cut_of_mem`, `cut_of_not_mem`).
-/

namespace BraceLink.Text

theorem dropPrefix?_eq_some_iff {start text rest : Text} :
    dropPrefix? start text = some rest ↔ text = start ++ rest := by
  induction start generalizing text with
  | nil => simp [dropPrefix?]
  | cons c start ih =>
    cases text with
    | nil => simp [dropPrefix?]
    | cons d text =>
      rw [dropPrefix?]
      split_ifs with hcd
      · rw [ih, hcd]
        simp
      · refine ⟨fun h => by simp at h, fun h => ?_⟩
        exact absurd (List.cons.inj h).1.symm hcd

theorem isPrefix_iff {start text : Text} : isPrefix start text = true ↔ start <+: text := by
  rw [isPrefix, Option.isSome_iff_exists]
  constructor
  · rintro ⟨rest, h⟩
    exact ⟨rest, (dropPrefix?_eq_some_iff.mp h).symm⟩
  · rintro ⟨rest, h⟩
    exact ⟨rest, dropPrefix?_eq_some_iff.mpr h.symm⟩

theorem cut_of_mem {sep : Char} {before : Text} (h : sep ∉ before) (after : Text) :
    cut sep (before ++ sep :: after) = (before, some after) := by
  induction before with
  | nil => simp [cut]
  | cons c before ih =>
    have hc : c ≠ sep := fun hc => h (by simp [hc])
    rw [List.cons_append, cut, if_neg hc, ih fun hmem => h (by simp [hmem])]

theorem cut_of_not_mem {sep : Char} {text : Text} (h : sep ∉ text) : cut sep text = (text, none) := by
  induction text with
  | nil => rfl
  | cons c text ih =>
    have hc : c ≠ sep := fun hc => h (by simp [hc])
    rw [cut, if_neg hc, ih fun hmem => h (by simp [hmem])]

theorem of_cut_eq_some {sep : Char} {text before after : Text} (h : cut sep text = (before, some after)) :
    text = before ++ sep :: after ∧ sep ∉ before := by
  by_cases hmem : sep ∈ text
  · obtain ⟨front, back, rfl, hfront⟩ := List.eq_append_cons_of_mem hmem
    rw [cut_of_mem hfront] at h
    cases h
    exact ⟨rfl, hfront⟩
  · rw [cut_of_not_mem hmem] at h
    cases h

/-- Nothing stands before the first separator exactly if the text begins with it, or is empty. -/
theorem cut_fst_eq_nil_iff {sep : Char} {text : Text} :
    (cut sep text).1 = [] ↔ ∀ c, text.head? = some c → c = sep := by
  cases text with
  | nil => simp [cut]
  | cons c text =>
    rw [cut]
    split_ifs with hc <;> simp [hc]

end BraceLink.Text
