import BraceLink.Text.Basic

/-!
# Tables

A table gives values to names and keeps the order in which the names first came. Setting a name that
is there changes its value and leaves it in its place.

* `Table.get?`, `Table.names`: the two views of a table.
* `Table.set`, `Table.ofList`: the table after one and after several settings.
-/

namespace BraceLink

abbrev Table (α : Type) := List (Text × α)

namespace Table

variable {α : Type}

def get? (table : Table α) (name : Text) : Option α := table.lookup name

def hasName (table : Table α) (name : Text) : Bool := (table.get? name).isSome

def names (table : Table α) : List Text := table.map Prod.fst

def set (table : Table α) (name : Text) (value : α) : Table α :=
  match table with
  | [] => [(name, value)]
  | entry :: rest =>
    if entry.1 = name then (name, value) :: rest else entry :: set rest name value

/-- The table that results from setting the names in order. -/
def ofList (entries : List (Text × α)) : Table α :=
  entries.foldl (fun table entry => table.set entry.1 entry.2) []

theorem get?_set (table : Table α) (name other : Text) (value : α) :
    (table.set name value).get? other = if other = name then some value else table.get? other := by
  induction table with
  | nil =>
    by_cases h : other = name
    · simp [set, get?, h]
    · simp [set, get?, h]
  | cons entry rest ih =>
    obtain ⟨key, old⟩ := entry
    simp only [get?] at ih
    by_cases h : key = name
    · subst h
      by_cases h' : other = key
      · subst h'; simp [set, get?]
      · have hb : (other == key) = false := by simp [h']
        simp [set, get?, List.lookup_cons, h', hb]
    · by_cases h' : other = key
      · subst h'; simp [set, get?, h]
      · have hb : (other == key) = false := by simp [h']
        simp [set, get?, List.lookup_cons, h, hb, ih]

theorem names_set_of_mem {table : Table α} {name : Text} (value : α) (h : name ∈ table.names) :
    (table.set name value).names = table.names := by
  induction table with
  | nil => simp [names] at h
  | cons entry rest ih =>
    by_cases he : entry.1 = name
    · simp [set, names, he]
    · have : name ∈ Table.names rest := by
        simp [names] at h
        rcases h with h | h
        · exact absurd h.symm he
        · simpa [names] using h
      have := ih this
      simp_all [set, names]

theorem names_set_of_not_mem {table : Table α} {name : Text} (value : α) (h : name ∉ table.names) :
    (table.set name value).names = table.names ++ [name] := by
  induction table with
  | nil => simp [set, names]
  | cons entry rest ih =>
    have he : entry.1 ≠ name := fun he => h (by simp [names, he])
    have hr : name ∉ Table.names rest := fun hm => h (by
      simp only [names, List.map_cons, List.mem_cons]; exact Or.inr hm)
    have := ih hr
    simp_all [set, names]

end Table

end BraceLink
