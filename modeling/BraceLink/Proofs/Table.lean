import BraceLink.Table
import Mathlib.Data.List.Induction

/-!
# Lookup in tables

A name has a value exactly if it is one of the names (`lookup_isSome_iff`), and where each name comes once, the
value is the one that stands with it (`lookup_eq_some_iff_mem`). A table that is made of entries has each name
once, where it first comes, with the value that comes last (`names_ofList`, `get?_ofList`), and entries that have
each name once are the table that they make (`ofList_eq_self`).
-/

namespace BraceLink.Table

variable {α : Type}

theorem lookup_cons (key name : Text) (value : α) (rest : List (Text × α)) :
    ((key, value) :: rest).lookup name = if name = key then some value else rest.lookup name := by
  rw [List.lookup_cons]
  by_cases h : name = key
  · rw [if_pos h, h, beq_self_eq_true]
  · rw [if_neg h, beq_false_of_ne h]

theorem lookup_isSome_iff {entries : List (Text × α)} {name : Text} :
    (entries.lookup name).isSome = true ↔ name ∈ entries.map Prod.fst := by
  rw [List.lookup_isSome_iff, List.mem_map]
  constructor
  · rintro ⟨entry, hmem, hname⟩
    exact ⟨entry, hmem, (eq_of_beq hname).symm⟩
  · rintro ⟨entry, hmem, rfl⟩
    exact ⟨entry, hmem, beq_self_eq_true _⟩

theorem mem_of_lookup {entries : List (Text × α)} {name : Text} {value : α} (h : entries.lookup name = some value) :
    (name, value) ∈ entries := by
  obtain ⟨before, after, rfl, -⟩ := List.lookup_eq_some_iff.mp h
  exact List.mem_append_right _ List.mem_cons_self

theorem lookup_eq_none_iff {entries : List (Text × α)} {name : Text} :
    entries.lookup name = none ↔ name ∉ entries.map Prod.fst := by
  rw [← lookup_isSome_iff, Bool.not_eq_true, Option.isSome_eq_false_iff, Option.isNone_iff_eq_none]

theorem lookup_eq_some_iff_mem {entries : List (Text × α)} (h : (entries.map Prod.fst).Nodup) {name : Text}
    {value : α} : entries.lookup name = some value ↔ (name, value) ∈ entries := by
  induction entries with
  | nil => simp
  | cons entry rest ih =>
    obtain ⟨key, found⟩ := entry
    obtain ⟨hkey, hrest⟩ := List.nodup_cons.mp h
    rw [lookup_cons, List.mem_cons, Prod.mk.injEq]
    by_cases hname : name = key
    · subst hname
      have hnot : (name, value) ∉ rest := fun hmem => hkey (List.mem_map.mpr ⟨_, hmem, rfl⟩)
      simp [hnot, eq_comm]
    · rw [if_neg hname, ih hrest]
      simp [hname]

theorem ofList_concat (entries : List (Text × α)) (entry : Text × α) :
    ofList (entries ++ [entry]) = (ofList entries).set entry.1 entry.2 := by
  rw [ofList, List.foldl_append]
  rfl

theorem set_of_not_mem {table : Table α} {name : Text} (value : α) (h : name ∉ table.names) :
    table.set name value = table ++ [(name, value)] := by
  induction table with
  | nil => rfl
  | cons entry rest ih =>
    rw [names, List.map_cons, List.mem_cons, not_or] at h
    rw [set, if_neg (Ne.symm h.1), ih h.2, List.cons_append]

theorem mem_of_mem_set {table : Table α} {name : Text} {value : α} {entry : Text × α}
    (h : entry ∈ table.set name value) : entry = (name, value) ∨ entry ∈ table := by
  induction table with
  | nil => exact Or.inl (List.mem_singleton.mp h)
  | cons first rest ih =>
    rw [set] at h
    split_ifs at h with hname
    · exact (List.mem_cons.mp h).imp_right (List.mem_cons_of_mem _)
    · rcases List.mem_cons.mp h with rfl | h
      · exact Or.inr List.mem_cons_self
      · exact (ih h).imp_right (List.mem_cons_of_mem _)

theorem names_ofList (entries : List (Text × α)) : (ofList entries).names = (entries.map Prod.fst).eraseDups := by
  induction entries using List.reverseRecOn with
  | nil => rfl
  | append_singleton entries entry ih =>
    have hiff : entry.1 ∈ (ofList entries).names ↔ entry.1 ∈ entries.map Prod.fst := by
      rw [ih, List.mem_eraseDups]
    rw [ofList_concat, List.map_append, List.eraseDups_append]
    by_cases hmem : entry.1 ∈ entries.map Prod.fst
    · rw [names_set_of_mem _ (hiff.mpr hmem), ih]
      simp [List.removeAll, hmem]
    · rw [names_set_of_not_mem _ fun h => hmem (hiff.mp h), ih]
      simp [List.removeAll, hmem, List.eraseDups_cons]

theorem nodup_names_ofList (entries : List (Text × α)) : (ofList entries).names.Nodup := by
  induction entries using List.reverseRecOn with
  | nil => exact List.nodup_nil
  | append_singleton entries entry ih =>
    rw [ofList_concat]
    by_cases hmem : entry.1 ∈ (ofList entries).names
    · rwa [names_set_of_mem _ hmem]
    · rw [names_set_of_not_mem _ hmem]
      refine List.nodup_append.mpr ⟨ih, List.pairwise_singleton _ _, fun name hname other hother heq => ?_⟩
      exact hmem (List.mem_singleton.mp hother ▸ heq ▸ hname)

theorem mem_of_mem_ofList {entries : List (Text × α)} {entry : Text × α} (h : entry ∈ ofList entries) :
    entry ∈ entries := by
  induction entries using List.reverseRecOn with
  | nil => exact h
  | append_singleton entries last ih =>
    rw [ofList_concat] at h
    rcases mem_of_mem_set h with rfl | h
    · exact List.mem_append_right _ (List.mem_singleton.mpr rfl)
    · exact List.mem_append_left _ (ih h)

theorem ofList_eq_self {entries : List (Text × α)} (h : (entries.map Prod.fst).Nodup) : ofList entries = entries := by
  induction entries using List.reverseRecOn with
  | nil => rfl
  | append_singleton entries entry ih =>
    rw [List.map_append, List.nodup_append] at h
    have hnew : entry.1 ∉ names entries := fun hmem => h.2.2 _ hmem _ (List.mem_singleton.mpr rfl) rfl
    rw [ofList_concat, ih h.1, set_of_not_mem entry.2 hnew]

theorem get?_ofList {before after : List (Text × α)} {name : Text} (value : α)
    (hafter : ∀ entry ∈ after, entry.1 ≠ name) :
    (ofList (before ++ (name, value) :: after)).get? name = some value := by
  induction after using List.reverseRecOn with
  | nil => rw [ofList_concat, get?_set, if_pos rfl]
  | append_singleton after entry ih =>
    have hlast : name ≠ entry.1 := (hafter entry (by simp)).symm
    rw [← List.cons_append, ← List.append_assoc, ofList_concat, get?_set, if_neg hlast]
    exact ih fun other hother => hafter other (List.mem_append_left _ hother)

end BraceLink.Table
