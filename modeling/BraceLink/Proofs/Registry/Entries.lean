import BraceLink.Proofs.Table
import BraceLink.Registry
import Mathlib.Data.Char
import Mathlib.Data.List.Lex

/-!
# The entries of registries

The entries of a registry are a map: what they say of a name after one is added or removed
(`lookup_insertEntry`, `lookup_filter`), and which changes keep the names in increasing order
(`Sorted.insertEntry`, `Sorted.filter`). `Extends` is the change that registering makes: new entries are
offered, and old ones stay.
-/

namespace BraceLink.Registry

variable {registry : Registry} {name other : Text} {kind : HandlerKind}

/-! ### Views -/

theorem has_iff : registry.has name = true ↔ name ∈ registry.names := Table.lookup_isSome_iff

theorem has_eq_false_iff : registry.has name = false ↔ name ∉ registry.names := by rw [← has_iff, Bool.not_eq_true]

theorem get_eq_ok_iff : registry.get name = .ok kind ↔ registry.entries.lookup name = some kind := by
  rw [get]
  cases registry.entries.lookup name with
  | none => simp
  | some found => simp

theorem exists_get_iff : (∃ kind, registry.get name = .ok kind) ↔ name ∈ registry.names := by
  rw [← has_iff, has, Option.isSome_iff_exists]
  exact exists_congr fun kind => get_eq_ok_iff

/-! ### Changes -/

theorem lookup_insertEntry {entries : List (Text × HandlerKind)} (hfree : name ∉ entries.map Prod.fst) :
    (insertEntry name kind entries).lookup other = if other = name then some kind else entries.lookup other := by
  induction entries with
  | nil => rw [insertEntry, Table.lookup_cons]
  | cons entry rest ih =>
    obtain ⟨key, found⟩ := entry
    rw [List.map_cons, List.mem_cons, not_or] at hfree
    rw [insertEntry]
    dsimp only
    by_cases hlt : name < key
    · rw [if_pos hlt, Table.lookup_cons]
    · rw [if_neg hlt, Table.lookup_cons, Table.lookup_cons, ih hfree.2]
      by_cases h : other = key
      · have hname : other ≠ name := fun hname => hfree.1 (hname.symm.trans h)
        rw [if_pos h, if_neg hname, if_pos h]
      · rw [if_neg h, if_neg h]

theorem mem_insertEntry {entries : List (Text × HandlerKind)} {entry : Text × HandlerKind} :
    entry ∈ insertEntry name kind entries ↔ entry = (name, kind) ∨ entry ∈ entries := by
  induction entries with
  | nil => simp [insertEntry]
  | cons first rest ih =>
    rw [insertEntry]
    split_ifs with hlt
    · simp
    · rw [List.mem_cons, ih, List.mem_cons]
      tauto

theorem lookup_filter {entries : List (Text × HandlerKind)} :
    (entries.filter fun entry => entry.1 ≠ name).lookup other =
      if other = name then none else entries.lookup other := by
  induction entries with
  | nil => simp
  | cons entry rest ih =>
    obtain ⟨key, found⟩ := entry
    by_cases hkey : key = name
    · subst hkey
      rw [List.filter_cons_of_neg (by simp), ih, Table.lookup_cons]
      by_cases h : other = key
      · rw [if_pos h, if_pos h]
      · rw [if_neg h, if_neg h, if_neg h]
    · rw [List.filter_cons_of_pos (by simpa using hkey), Table.lookup_cons, Table.lookup_cons, ih]
      by_cases h : other = key
      · have hname : other ≠ name := fun hname => hkey (h.symm.trans hname)
        rw [if_pos h, if_neg hname, if_pos h]
      · rw [if_neg h, if_neg h]

/-! ### Order -/

/-- The names are in increasing order, and so each of them has one entry. -/
def Sorted (registry : Registry) : Prop := registry.entries.Pairwise fun first second => first.1 < second.1

theorem Sorted.names (h : registry.Sorted) : registry.names.Pairwise (· < ·) := List.pairwise_map.mpr h

theorem sorted_insertEntry {entries : List (Text × HandlerKind)}
    (h : entries.Pairwise fun first second => first.1 < second.1) (hfree : name ∉ entries.map Prod.fst) :
    (insertEntry name kind entries).Pairwise fun first second => first.1 < second.1 := by
  induction entries with
  | nil => exact List.pairwise_singleton _ _
  | cons entry rest ih =>
    obtain ⟨hfirst, hrest⟩ := List.pairwise_cons.mp h
    rw [List.map_cons, List.mem_cons, not_or] at hfree
    rw [insertEntry]
    split_ifs with hlt
    · refine List.pairwise_cons.mpr ⟨fun later hlater => ?_, h⟩
      rcases List.mem_cons.mp hlater with rfl | hlater
      · exact hlt
      · exact lt_trans hlt (hfirst later hlater)
    · refine List.pairwise_cons.mpr ⟨fun later hlater => ?_, ih hrest hfree.2⟩
      rcases mem_insertEntry.mp hlater with rfl | hlater
      · exact lt_of_le_of_ne (not_lt.mp hlt) (Ne.symm hfree.1)
      · exact hfirst later hlater

theorem Sorted.insertEntry (h : registry.Sorted) (hfree : registry.has name = false) :
    Sorted ⟨insertEntry name kind registry.entries⟩ := sorted_insertEntry h (has_eq_false_iff.mp hfree)

theorem Sorted.filter (h : registry.Sorted) (name : Text) :
    Sorted ⟨registry.entries.filter fun entry => entry.1 ≠ name⟩ := List.Pairwise.filter _ h

/-! ### Growth -/

/-- The change that registering makes: names stay in order, old entries stay, and new ones are offered. -/
structure Extends (offers : Text → HandlerKind → Prop) (before after : Registry) : Prop where
  sorted : before.Sorted → after.Sorted
  keeps : ∀ name kind, before.get name = .ok kind → after.get name = .ok kind
  offered : ∀ name kind, after.get name = .ok kind → before.get name = .ok kind ∨ offers name kind

namespace Extends

variable {offers more : Text → HandlerKind → Prop} {before between after : Registry}

theorem refl (registry : Registry) : Extends offers registry registry where
  sorted := id
  keeps _ _ := id
  offered _ _ := Or.inl

theorem trans (hfirst : Extends offers before between) (hsecond : Extends offers between after) :
    Extends offers before after where
  sorted h := hsecond.sorted (hfirst.sorted h)
  keeps name kind h := hsecond.keeps name kind (hfirst.keeps name kind h)
  offered name kind h := (hsecond.offered name kind h).elim (hfirst.offered name kind) Or.inr

theorem mono (h : Extends offers before after) (hmore : ∀ name kind, offers name kind → more name kind) :
    Extends more before after where
  sorted := h.sorted
  keeps := h.keeps
  offered name kind hget := (h.offered name kind hget).imp_right (hmore name kind)

theorem insertEntry (hfree : before.has name = false) (hoffer : offers name kind) :
    Extends offers before ⟨insertEntry name kind before.entries⟩ := by
  have hnew : name ∉ before.entries.map Prod.fst := has_eq_false_iff.mp hfree
  refine ⟨fun hsorted => hsorted.insertEntry hfree, fun other found hget => ?_, fun other found hget => ?_⟩
  · rw [get_eq_ok_iff] at hget ⊢
    rw [lookup_insertEntry hnew, if_neg, hget]
    rintro rfl
    rw [Table.lookup_eq_none_iff.mpr hnew] at hget
    cases hget
  · rw [get_eq_ok_iff, lookup_insertEntry hnew] at hget
    split_ifs at hget with hother
    · obtain rfl := Option.some.inj hget
      exact Or.inr (hother ▸ hoffer)
    · exact Or.inl (get_eq_ok_iff.mpr hget)

end Extends

end BraceLink.Registry
