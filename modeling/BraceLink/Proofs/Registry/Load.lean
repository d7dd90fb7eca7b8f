import BraceLink.Proofs.Registry.Session
import Mathlib.Data.List.Nodup

/-!
# Loading what packages offer

Entry points are loaded one after the other. One of them adds its name exactly if the name is free and it offers a
kind of handlers (`get_load_iff`), so after all of them a name that was free stands for the first kind that was
offered under it (`get_loadAll_iff`, `FirstOffered`). From this rule follow the other properties of
`loading_first_wins`: a second time nothing is left to add (`loadAll_eq_self`), and the order of entry points with
different names does not matter (`firstOffered_iff_mem`).
-/

namespace BraceLink.Registry

variable {registry : Registry} {name : Text} {kind : HandlerKind} {entry : EntryPoint} {entries : List EntryPoint}

/-! ### The first offer -/

def FirstOffered (entries : List EntryPoint) (name : Text) (kind : HandlerKind) : Prop :=
  ∃ before after, entries = before ++ ⟨name, some (.kind kind)⟩ :: after ∧
    ∀ other, ⟨name, some (.kind other)⟩ ∉ before

theorem firstOffered_nil : ¬ FirstOffered [] name kind := by
  rintro ⟨before, after, h, -⟩
  simp at h

theorem firstOffered_cons_iff :
    FirstOffered (entry :: entries) name kind ↔
      entry = ⟨name, some (.kind kind)⟩ ∨
        (∀ other, entry ≠ ⟨name, some (.kind other)⟩) ∧ FirstOffered entries name kind := by
  constructor
  · rintro ⟨before, after, h, hbefore⟩
    cases before with
    | nil => exact Or.inl (List.cons.inj h).1
    | cons first before =>
      obtain ⟨rfl, rfl⟩ := List.cons.inj h
      refine Or.inr ⟨fun other hother => hbefore other (hother ▸ List.mem_cons_self), before, after, rfl, ?_⟩
      exact fun other hother => hbefore other (List.mem_cons_of_mem _ hother)
  · rintro (rfl | ⟨hentry, before, after, rfl, hbefore⟩)
    · exact ⟨[], entries, rfl, fun _ => List.not_mem_nil⟩
    · refine ⟨entry :: before, after, rfl, fun other hother => ?_⟩
      rcases List.mem_cons.mp hother with heq | hother
      · exact hentry other heq.symm
      · exact hbefore other hother

theorem exists_firstOffered_iff :
    (∃ kind, FirstOffered entries name kind) ↔ ∃ kind, ⟨name, some (.kind kind)⟩ ∈ entries := by
  induction entries with
  | nil => simp [firstOffered_nil]
  | cons entry entries ih =>
    simp only [firstOffered_cons_iff, List.mem_cons, exists_or, exists_and_left, ih, eq_comm (b := entry)]
    by_cases h : ∃ kind, entry = ⟨name, some (.kind kind)⟩
    · simp only [h, true_or]
    · rw [not_exists] at h
      simp only [h, ne_eq, not_false_eq_true, implies_true, true_and]

theorem firstOffered_iff_mem (h : (entries.map EntryPoint.name).Nodup) :
    FirstOffered entries name kind ↔ ⟨name, some (.kind kind)⟩ ∈ entries := by
  constructor
  · rintro ⟨before, after, rfl, -⟩
    exact List.mem_append_right _ List.mem_cons_self
  · intro hmem
    obtain ⟨before, after, rfl⟩ := List.append_of_mem hmem
    refine ⟨before, after, rfl, fun other hother => ?_⟩
    rw [List.map_append, List.map_cons, List.nodup_append] at h
    exact h.2.2 name (List.mem_map.mpr ⟨_, hother, rfl⟩) name List.mem_cons_self rfl

/-! ### Loading -/

theorem get_load_iff (group : Text) :
    (load group registry entry).1.get name = .ok kind ↔
      registry.get name = .ok kind ∨ name ∉ registry.names ∧ entry = ⟨name, some (.kind kind)⟩ := by
  have hextends := load_extends group registry entry
  constructor
  · intro h
    by_cases hname : name ∈ registry.names
    · obtain ⟨found, hfound⟩ := exists_get_iff.mpr hname
      obtain rfl : found = kind := Except.ok.inj ((hextends.keeps name found hfound).symm.trans h)
      exact Or.inl hfound
    · exact (hextends.offered name kind h).imp_right fun hoffer => ⟨hname, hoffer⟩
  · rintro (hget | ⟨hname, rfl⟩)
    · exact hextends.keeps name kind hget
    · rw [load, has_eq_false_iff.mpr hname, get_eq_ok_iff]
      exact (lookup_insertEntry hname).trans (if_pos rfl)

theorem mem_names_load_iff (group : Text) :
    name ∈ (load group registry entry).1.names ↔
      name ∈ registry.names ∨ ∃ kind, entry = ⟨name, some (.kind kind)⟩ := by
  rw [← exists_get_iff, ← exists_get_iff]
  simp only [get_load_iff, exists_or, exists_and_left, ← exists_get_iff]
  tauto

/-- What was there stays, and of what is new, the first offer counts. -/
theorem get_loadAll_iff (group : Text) :
    (loadAll group registry entries).1.get name = .ok kind ↔
      registry.get name = .ok kind ∨ name ∉ registry.names ∧ FirstOffered entries name kind := by
  induction entries generalizing registry with
  | nil => simp [loadAll, firstOffered_nil]
  | cons entry entries ih =>
    rw [loadAll, ih, get_load_iff, mem_names_load_iff, firstOffered_cons_iff, not_or, not_exists]
    tauto

theorem mem_names_loadAll_iff (group : Text) :
    name ∈ (loadAll group registry entries).1.names ↔
      name ∈ registry.names ∨ ∃ kind, ⟨name, some (.kind kind)⟩ ∈ entries := by
  rw [← exists_firstOffered_iff, ← exists_get_iff, ← exists_get_iff]
  simp only [get_loadAll_iff, exists_or, exists_and_left, ← exists_get_iff]
  tauto

theorem load_eq_self (group : Text) (h : ∀ kind, entry.offer = some (.kind kind) → entry.name ∈ registry.names) :
    (load group registry entry).1 = registry := by
  unfold load
  split
  · rfl
  · next hhas =>
    split
    · rfl
    · rfl
    · next kind hoffer => exact absurd (has_iff.mpr (h kind hoffer)) hhas

/-- Nothing is added where every kind is offered under a name that is taken. -/
theorem loadAll_eq_self (group : Text)
    (h : ∀ entry ∈ entries, ∀ kind, entry.offer = some (.kind kind) → entry.name ∈ registry.names) :
    (loadAll group registry entries).1 = registry := by
  induction entries with
  | nil => rfl
  | cons entry entries ih =>
    obtain ⟨hentry, hentries⟩ := List.forall_mem_cons.mp h
    rw [loadAll]
    dsimp only
    rw [load_eq_self group hentry, ih hentries]

/-- Registries in order are equal if they give the same kinds to the same names. -/
theorem Sorted.ext {first second : Registry} (hfirst : first.Sorted) (hsecond : second.Sorted)
    (h : ∀ name kind, first.get name = .ok kind ↔ second.get name = .ok kind) : first = second := by
  have hnames : ∀ {registry : Registry}, registry.Sorted → (registry.entries.map Prod.fst).Nodup := fun hsorted =>
    hsorted.names.imp ne_of_lt
  have hmem : ∀ entry, entry ∈ first.entries ↔ entry ∈ second.entries := by
    rintro ⟨name, kind⟩
    rw [← Table.lookup_eq_some_iff_mem (hnames hfirst), ← Table.lookup_eq_some_iff_mem (hnames hsecond),
      ← get_eq_ok_iff, ← get_eq_ok_iff, h]
  have hperm : first.entries.Perm second.entries :=
    (List.perm_ext_iff_of_nodup (List.Nodup.of_map _ (hnames hfirst)) (List.Nodup.of_map _ (hnames hsecond))).mpr hmem
  have hentries : first.entries = second.entries := by
    refine hperm.eq_of_pairwise (fun _ _ _ _ hlt hgt => ?_) hfirst hsecond
    exact absurd hlt (lt_asymm hgt)
  cases first
  cases second
  congr

end BraceLink.Registry
