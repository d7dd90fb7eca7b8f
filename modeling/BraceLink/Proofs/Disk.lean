import BraceLink.Disk
import Mathlib.Data.List.Infix

/-!
# Reading what was written

A path leads through folders only, and a write changes one place that is no folder (`write_eq_ok_iff`). So a
path leads to the same place before and after it (`locate_put`). The written file has the written bytes then
(`read_write`), and every other file has the bytes that it had (`read_write_of_ne`).
-/

namespace BraceLink.Disk

variable {disk : Disk} {place : Place} {bytes : List Nat}

/-! ### One place changed -/

def put (disk : Disk) (place : Place) (bytes : List Nat) : Disk :=
  ⟨(place, .file bytes) :: disk.nodes.filter fun entry => entry.1 ≠ place⟩

theorem node?_put_self (disk : Disk) (place : Place) (bytes : List Nat) :
    (disk.put place bytes).node? place = some (.file bytes) := by
  simp [node?, put]

theorem lookup_filter_ne (nodes : List (Place × Node)) {other : Place} (h : other ≠ place) :
    (nodes.filter fun entry => entry.1 ≠ place).lookup other = nodes.lookup other := by
  induction nodes with
  | nil => rfl
  | cons entry nodes ih =>
    obtain ⟨found, node⟩ := entry
    by_cases hfound : found = place
    · subst hfound
      rw [List.filter_cons_of_neg (by simp), ih, List.lookup_cons, beq_false_of_ne h]
    · rw [List.filter_cons_of_pos (by simpa using hfound), List.lookup_cons, List.lookup_cons, ih]

def HasFolders (disk : Disk) (place : Place) : Prop :=
  ∀ parts, parts <+: place.parts → parts ≠ place.parts →
    disk.node? { place with parts := parts } = some .folder

theorem node?_put_of_ne (hfolders : disk.HasFolders place) {other : Place} (h : other ≠ place) :
    (disk.put place bytes).node? other = disk.node? other := by
  have hlookup : (disk.put place bytes).nodes.lookup other = disk.nodes.lookup other := by
    rw [put, List.lookup_cons, beq_false_of_ne h]
    exact lookup_filter_ne disk.nodes h
  have habove : other.root = place.root → other.parts <+: place.parts → disk.node? other = some .folder := by
    intro hroot hparts
    obtain ⟨root, parts⟩ := other
    obtain rfl : root = place.root := hroot
    exact hfolders parts hparts fun heq => h (by rw [heq])
  rw [node?, node?, hlookup]
  cases hnode : disk.nodes.lookup other with
  | some node => rfl
  | none =>
    simp only
    by_cases hover : other.root = place.root ∧ other.parts <+: place.parts
    · -- what is above the place is a folder before and after
      have hfolder := habove hover.1 hover.2
      rw [node?, hnode] at hfolder
      simp only at hfolder
      rw [hfolder, if_pos]
      simp [put, hover.1, List.isPrefixOf_iff_prefix.mpr hover.2]
    · have hplace : (decide (other.root = place.root) && other.parts.isPrefixOf place.parts) = false := by
        rw [← List.isPrefixOf_iff_prefix] at hover
        rw [← Bool.not_eq_true, Bool.and_eq_true, decide_eq_true_iff]
        exact hover
      have hany : ((disk.put place bytes).nodes.any fun entry =>
          decide (other.root = entry.1.root) && other.parts.isPrefixOf entry.1.parts) =
            disk.nodes.any fun entry =>
              decide (other.root = entry.1.root) && other.parts.isPrefixOf entry.1.parts := by
        rw [put, List.any_cons, hplace, Bool.false_or, List.any_filter]
        congr 1
        funext entry
        by_cases hentry : entry.1 = place
        · rw [hentry, hplace, Bool.and_false]
        · simp [hentry]
      rw [hany]

/-! ### Where paths lead -/

theorem hasFolders_nil (disk : Disk) (root : Text) : disk.HasFolders ⟨root, []⟩ :=
  fun _ hparts hne => absurd (List.prefix_nil.mp hparts) hne

theorem HasFolders.concat (h : disk.HasFolders place) (hfolder : disk.node? place = some .folder) (part : Text) :
    disk.HasFolders { place with parts := place.parts ++ [part] } := by
  intro parts hparts hne
  rcases List.prefix_concat_iff.mp hparts with heq | hparts
  · exact absurd heq hne
  · by_cases hsame : parts = place.parts
    · rw [hsame]
      exact hfolder
    · exact h parts hparts hsame

theorem HasFolders.above (h : disk.HasFolders place) (hfolder : disk.node? place = some .folder) :
    disk.HasFolders (above place) := by
  unfold Disk.above
  split
  · rename_i part hlast
    split_ifs
    · exact h.concat hfolder up
    · intro parts hparts hne
      refine h parts (hparts.trans (List.dropLast_prefix _)) fun heq => ?_
      have hlength := hparts.length_le
      have hpos : place.parts ≠ [] := fun hnil => by simp [hnil] at hlast
      have := List.length_pos_iff.mpr hpos
      rw [heq, List.length_dropLast] at hlength
      omega
  · rename_i hnone
    have hnil : place.parts = [] := by simpa using hnone
    split_ifs
    · have hconcat := h.concat hfolder up
      rwa [hnil, List.nil_append] at hconcat
    · exact h

theorem follow_hasFolders {parts : List Text} {target : Place} (h : disk.HasFolders place)
    (hfollow : disk.follow place parts = .ok target) : disk.HasFolders target := by
  induction parts generalizing place with
  | nil =>
    obtain rfl := Except.ok.inj hfollow
    exact h
  | cons part rest ih =>
    rw [follow] at hfollow
    split at hfollow
    · cases hfollow
    · cases hfollow
    · rename_i hfolder
      split_ifs at hfollow
      · exact ih (h.above hfolder) hfollow
      · exact ih (h.concat hfolder part) hfollow

theorem follow_put (hfile : disk.node? place ≠ some .folder) (hfolders : disk.HasFolders place)
    {start target : Place} {parts : List Text} (h : disk.follow start parts = .ok target) :
    (disk.put place bytes).follow start parts = .ok target := by
  induction parts generalizing start with
  | nil => exact h
  | cons part rest ih =>
    rw [follow] at h
    split at h
    · cases h
    · cases h
    · rename_i hfolder
      have hne : start ≠ place := by
        rintro rfl
        exact hfile hfolder
      rw [follow, node?_put_of_ne hfolders hne, hfolder]
      simp only
      split_ifs at h ⊢
      · exact ih h
      · exact ih h

theorem locate_hasFolders {path : Text} (h : disk.locate path = .ok place) : disk.HasFolders place := by
  unfold locate at h
  dsimp only at h
  split_ifs at h
  exact follow_hasFolders (hasFolders_nil disk _) h

theorem locate_put (hfile : disk.node? place ≠ some .folder) (hfolders : disk.HasFolders place)
    {path : Text} {target : Place} (h : disk.locate path = .ok target) :
    (disk.put place bytes).locate path = .ok target := by
  unfold locate at h ⊢
  dsimp only at h ⊢
  split_ifs at h ⊢
  exact follow_put hfile hfolders h

/-! ### Reading after a write -/

variable {after : Disk} {path : Text}

theorem write_eq_ok_iff :
    disk.write path bytes = .ok after ↔
      ∃ place, disk.locate path = .ok place ∧ disk.node? place ≠ some .folder ∧ after = disk.put place bytes := by
  unfold write
  cases hlocate : disk.locate path with
  | error refusal => simp
  | ok place =>
    cases hnode : disk.node? place with
    | none => simp [hnode, put, eq_comm]
    | some node => cases node <;> simp [hnode, put, eq_comm]

theorem read_eq_ok_iff :
    disk.read path = .ok bytes ↔ ∃ place, disk.locate path = .ok place ∧ disk.node? place = some (.file bytes) := by
  unfold read
  cases hlocate : disk.locate path with
  | error refusal => simp
  | ok place =>
    cases hnode : disk.node? place with
    | none => simp [hnode]
    | some node => cases node <;> simp [hnode]

theorem read_write (h : disk.write path bytes = .ok after) : after.read path = .ok bytes := by
  obtain ⟨place, hlocate, hfile, rfl⟩ := write_eq_ok_iff.mp h
  exact read_eq_ok_iff.mpr
    ⟨place, locate_put hfile (locate_hasFolders hlocate) hlocate, node?_put_self disk place bytes⟩

theorem read_write_of_ne {other : Text} {held : List Nat} (h : disk.write path bytes = .ok after)
    (hread : disk.read other = .ok held) (hne : disk.locate other ≠ disk.locate path) :
    after.read other = .ok held := by
  obtain ⟨place, hlocate, hfile, rfl⟩ := write_eq_ok_iff.mp h
  obtain ⟨found, hfound, hnode⟩ := read_eq_ok_iff.mp hread
  have hfolders := locate_hasFolders hlocate
  have hplace : found ≠ place := by
    rintro rfl
    exact hne (hfound.trans hlocate.symm)
  refine read_eq_ok_iff.mpr ⟨found, locate_put hfile hfolders hfound, ?_⟩
  rw [node?_put_of_ne hfolders hplace, hnode]

end BraceLink.Disk
