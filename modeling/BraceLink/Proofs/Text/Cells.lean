import BraceLink.Proofs.Text.Split
import BraceLink.Text.Blank
import BraceLink.Text.Cells
import Mathlib.Algebra.GroupWithZero.Nat

/-!
# The cells of a text

Without joiners and selectors every character counts for itself: a text takes the cells of its characters
(`cells_eq`). A text whose beginning fits is cut behind that beginning, so only the blanks that stand there can be
lost (`visible_fit`), and what is left fits (`fit_fit`).
-/

namespace BraceLink.Text

def visible (text : Text) : Text := text.filter fun c => !isBlank c

@[simp] theorem visible_nil : visible [] = [] := rfl

@[simp] theorem visible_append (text more : Text) : visible (text ++ more) = visible text ++ visible more :=
  List.filter_append _ _

theorem visible_of_blank {text : Text} (h : ∀ c ∈ text, isBlank c = true) : visible text = [] :=
  List.filter_eq_nil_iff.mpr fun c hc => by simp [h c hc]

theorem visible_replicate (number : Nat) : visible (List.replicate number ' ') = [] :=
  visible_of_blank fun c hc => by
    rw [List.eq_of_mem_replicate hc]
    decide

theorem visible_flatten (texts : List Text) : visible texts.flatten = texts.flatMap visible := by
  rw [visible, List.filter_flatten]
  rfl

theorem visible_join {sep : Char} (hsep : isBlank sep = true) (texts : List Text) :
    visible (join [sep] texts) = texts.flatMap visible := by
  induction texts with
  | nil => rfl
  | cons text texts ih =>
    by_cases hnil : texts = []
    · subst hnil
      simp [join]
    · have hone : visible [sep] = [] := visible_of_blank fun c hc => by rwa [List.mem_singleton.mp hc]
      rw [join_cons [sep] text hnil, visible_append, visible_append, hone, List.append_nil, ih, List.flatMap_cons]

def width (text : Text) : Nat := (text.map charCells).sum

@[simp] theorem width_nil : width [] = 0 := rfl

@[simp] theorem width_cons (c : Char) (text : Text) : width (c :: text) = charCells c + width text := rfl

@[simp] theorem width_append (text more : Text) : width (text ++ more) = width text + width more := by
  simp [width]

theorem charCells_le (c : Char) : charCells c ≤ 2 := by
  unfold charCells
  split_ifs <;> omega

/-- No character changes the cells of another. -/
def Separate (text : Text) : Prop := ∀ c ∈ text, c ≠ joiner ∧ c ≠ emojiSelector

instance (text : Text) : Decidable (Separate text) := List.decidableBAll _ text

theorem separate_cons {c : Char} {text : Text} :
    Separate (c :: text) ↔ (c ≠ joiner ∧ c ≠ emojiSelector) ∧ Separate text :=
  List.forall_mem_cons

/-! ### Clusters -/

variable {before : Cluster} {c : Char} {text rest : Text}

theorem clustersAfter_zero (hc : c ≠ joiner ∧ c ≠ emojiSelector) (hcells : charCells c = 0) (before : Cluster)
    (rest : Text) :
    clustersAfter before (c :: rest) = clustersAfter { before with content := before.content ++ [c] } rest := by
  rw [clustersAfter.eq_def]
  simp only [if_neg hc.1, if_neg hc.2, if_pos hcells]

theorem clustersAfter_cons (hc : c ≠ joiner ∧ c ≠ emojiSelector) (hcells : charCells c ≠ 0) (before : Cluster)
    (rest : Text) : clustersAfter before (c :: rest) = before :: clustersAfter (.single c) rest := by
  rw [clustersAfter.eq_def]
  simp only [if_neg hc.1, if_neg hc.2, if_neg hcells]

theorem clustersAfter_spec (htext : Separate text) (hbefore : before.cells = width before.content)
    (hle : before.cells ≤ 2) :
    (clustersAfter before text).flatMap Cluster.content = before.content ++ text ∧
      ∀ cluster ∈ clustersAfter before text, cluster.cells = width cluster.content ∧ cluster.cells ≤ 2 := by
  induction text generalizing before with
  | nil =>
    refine ⟨by simp [clustersAfter], fun cluster hmem => ?_⟩
    obtain rfl := List.mem_singleton.mp hmem
    exact ⟨hbefore, hle⟩
  | cons c rest ih =>
    obtain ⟨hc, hrest⟩ := separate_cons.mp htext
    by_cases hcells : charCells c = 0
    · rw [clustersAfter_zero hc hcells]
      have hsame : before.cells = width (before.content ++ [c]) := by simp [hbefore, hcells]
      obtain ⟨hcontent, hall⟩ := @ih { before with content := before.content ++ [c] } hrest hsame hle
      exact ⟨by simpa using hcontent, hall⟩
    · rw [clustersAfter_cons hc hcells]
      have hsingle : (Cluster.single c).cells = width (Cluster.single c).content := by simp [Cluster.single]
      obtain ⟨hcontent, hall⟩ := ih hrest hsingle (charCells_le c)
      refine ⟨by rw [List.flatMap_cons, hcontent]; rfl, fun cluster hmem => ?_⟩
      rcases List.mem_cons.mp hmem with rfl | hmem
      · exact ⟨hbefore, hle⟩
      · exact hall cluster hmem

theorem clusters_spec (htext : Separate text) :
    (clusters text).flatMap Cluster.content = text ∧
      ∀ cluster ∈ clusters text, cluster.cells = width cluster.content ∧ cluster.cells ≤ 2 := by
  cases text with
  | nil => exact ⟨rfl, by simp [clusters]⟩
  | cons c rest =>
    exact clustersAfter_spec (separate_cons.mp htext).2 (by simp [Cluster.single]) (charCells_le c)

theorem cells_eq (htext : Separate text) : cells text = width text := by
  have hsum : ∀ (all : List Cluster) (total : Nat), (∀ cluster ∈ all, cluster.cells = width cluster.content) →
      all.foldl (fun total cluster => total + cluster.cells) total = total + width (all.flatMap Cluster.content) := by
    intro all
    induction all with
    | nil => simp
    | cons cluster all ih =>
      intro total hall
      rw [List.foldl_cons, ih _ fun other hother => hall other (List.mem_cons_of_mem _ hother),
        List.flatMap_cons, width_append, hall cluster List.mem_cons_self]
      omega
  obtain ⟨hcontent, hall⟩ := clusters_spec htext
  rw [cells, hsum _ 0 fun cluster hmem => (hall cluster hmem).1, hcontent, Nat.zero_add]

/-! ### Cutting -/

theorem fitClusters_of_lt {room : Nat} (htext : Separate text) (h : room < before.cells) :
    fitClusters room (clustersAfter before text) = List.replicate room ' ' := by
  induction text generalizing before with
  | nil => rw [clustersAfter, fitClusters, if_neg (by omega)]
  | cons c rest ih =>
    obtain ⟨hc, hrest⟩ := separate_cons.mp htext
    by_cases hcells : charCells c = 0
    · rw [clustersAfter_zero hc hcells]
      exact ih hrest h
    · rw [clustersAfter_cons hc hcells, fitClusters, if_neg (by omega)]

theorem visible_fitClusters_blank {room : Nat} (htext : Separate text) (hblank : ∀ c ∈ text, isBlank c = true)
    (h : before.cells ≤ room) :
    visible (fitClusters room (clustersAfter before text)) = visible before.content := by
  induction text generalizing before room with
  | nil => simp [clustersAfter, fitClusters, h]
  | cons c rest ih =>
    obtain ⟨hc, hrest⟩ := separate_cons.mp htext
    have hvisible : visible [c] = [] := visible_of_blank fun d hd => hblank d (by simp_all)
    have hbehind : ∀ d ∈ rest, isBlank d = true := fun d hd => hblank d (List.mem_cons_of_mem _ hd)
    by_cases hcells : charCells c = 0
    · rw [clustersAfter_zero hc hcells]
      refine (@ih { before with content := before.content ++ [c] } room hrest hbehind h).trans ?_
      rw [visible_append, hvisible, List.append_nil]
    · rw [clustersAfter_cons hc hcells, fitClusters, if_pos h, visible_append]
      rcases Nat.lt_or_ge (room - before.cells) (Cluster.single c).cells with hlt | hle
      · rw [fitClusters_of_lt hrest hlt, visible_replicate, List.append_nil]
      · rw [ih hrest hbehind hle, show (Cluster.single c).content = [c] from rfl, hvisible, List.append_nil]

theorem visible_fitClusters {room : Nat} {blanks : Text} (htext : Separate (text ++ blanks))
    (hblank : ∀ c ∈ blanks, isBlank c = true) (h : before.cells + width text ≤ room) :
    visible (fitClusters room (clustersAfter before (text ++ blanks))) = visible before.content ++ visible text := by
  induction text generalizing before room with
  | nil =>
    rw [visible_nil, List.append_nil]
    exact visible_fitClusters_blank htext hblank h
  | cons c rest ih =>
    obtain ⟨hc, hrest⟩ := separate_cons.mp htext
    have hsplit : visible (c :: rest) = visible [c] ++ visible rest := visible_append [c] rest
    rw [width_cons] at h
    rw [List.cons_append, hsplit]
    by_cases hcells : charCells c = 0
    · have hnext : before.cells + width rest ≤ room := by omega
      rw [clustersAfter_zero hc hcells]
      refine (@ih { before with content := before.content ++ [c] } room hrest hnext).trans ?_
      rw [visible_append, List.append_assoc]
    · have hnext : (Cluster.single c).cells + width rest ≤ room - before.cells := by
        change charCells c + width rest ≤ room - before.cells
        omega
      rw [clustersAfter_cons hc hcells, fitClusters, if_pos (by omega), visible_append, ih hrest hnext]
      rfl

theorem visible_fit {room : Nat} {blanks : Text} (htext : Separate (text ++ blanks))
    (hblank : ∀ c ∈ blanks, isBlank c = true) (h : width text ≤ room) :
    visible (fit room (text ++ blanks)) = visible text := by
  have hblanks : visible blanks = [] := visible_of_blank hblank
  rw [fit]
  split_ifs
  · rw [visible_append, hblanks, List.append_nil]
  · cases text with
    | nil =>
      cases blanks with
      | nil => rfl
      | cons c rest =>
        obtain ⟨-, hrest⟩ := separate_cons.mp htext
        have hbehind : ∀ d ∈ rest, isBlank d = true := fun d hd => hblank d (List.mem_cons_of_mem _ hd)
        rw [List.nil_append, clusters]
        rcases Nat.lt_or_ge room (Cluster.single c).cells with hlt | hle
        · rw [fitClusters_of_lt hrest hlt, visible_replicate, visible_nil]
        · rw [visible_fitClusters_blank hrest hbehind hle]
          exact visible_of_blank fun d hd => hblank d (by simp_all [Cluster.single])
    | cons c rest =>
      obtain ⟨-, hrest⟩ := separate_cons.mp htext
      rw [List.cons_append, clusters, visible_fitClusters hrest hblank h]
      exact (visible_append [c] rest).symm

/-! ### Cut texts fit -/

theorem width_replicate (number : Nat) : width (List.replicate number ' ') = number := by
  have hblank : charCells ' ' = 1 := by decide
  induction number with
  | zero => rfl
  | succ number ih => rw [List.replicate_succ, width_cons, ih, hblank, Nat.add_comm]

theorem fitClusters_spec {all : List Cluster} (room : Nat)
    (hall : ∀ cluster ∈ all, Separate cluster.content ∧ cluster.cells = width cluster.content) :
    Separate (fitClusters room all) ∧ width (fitClusters room all) ≤ room := by
  induction all generalizing room with
  | nil => exact ⟨List.forall_mem_nil _, Nat.zero_le room⟩
  | cons cluster all ih =>
    obtain ⟨hcontent, hcells⟩ := hall cluster List.mem_cons_self
    rw [fitClusters]
    split_ifs with hfits
    · obtain ⟨hseparate, hwidth⟩ := ih (room - cluster.cells) fun other hother =>
        hall other (List.mem_cons_of_mem _ hother)
      refine ⟨fun c hc => (List.mem_append.mp hc).elim (hcontent c) (hseparate c), ?_⟩
      rw [width_append, ← hcells]
      omega
    · refine ⟨fun c hc => ?_, Nat.le_of_eq (width_replicate room)⟩
      rw [List.eq_of_mem_replicate hc]
      decide

theorem fit_fit (htext : Separate text) (room : Nat) : fit room (fit room text) = fit room text := by
  obtain ⟨hcontent, hcells⟩ := clusters_spec htext
  have hall : ∀ cluster ∈ clusters text, Separate cluster.content ∧ cluster.cells = width cluster.content := by
    refine fun cluster hmem => ⟨fun c hc => htext c ?_, (hcells cluster hmem).1⟩
    rw [← hcontent]
    exact List.mem_flatMap.mpr ⟨cluster, hmem, hc⟩
  obtain ⟨hseparate, hwidth⟩ := fitClusters_spec room hall
  have hfits : cells (fit room text) ≤ room := by
    rw [fit]
    split_ifs with hle
    · exact hle
    · rwa [cells_eq hseparate]
  rw [fit, if_pos hfits]

end BraceLink.Text
