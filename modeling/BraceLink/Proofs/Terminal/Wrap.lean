import BraceLink.Proofs.Text.Cells
import BraceLink.Terminal.Wrap
import Mathlib.Data.List.SplitBy

/-!
# Folding loses nothing but blanks

A text is filled line by line. Tabs become blanks (`visible_expandTabs`), a line is cut into words with the blanks
behind them (`flatten_wordsWithBlanks`), and words that are too long into pieces (`cutWord_spec`). The lines that
these are put on are the text again, and each fits but for blanks at its end (`place_spec`), so that trimming and
cutting it takes only blanks away (`visible_seen`). Hence the lines show the characters of the text, in order,
without its blanks (`visible_fill`).
-/

namespace BraceLink.Terminal

open Text (cells isBlank visible width Separate Cluster charCells)

variable {room : Nat} {text line : Text}

/-! ### Tabs -/

theorem visible_expandTabsFrom (column : Nat) (parts : List Text) :
    visible (expandTabsFrom column parts) = parts.flatMap visible := by
  induction parts generalizing column with
  | nil => rfl
  | cons part parts ih =>
    cases parts with
    | nil => simp [expandTabsFrom]
    | cons next parts =>
      rw [expandTabsFrom, Text.visible_append, Text.visible_append, Text.visible_replicate, List.append_nil, ih]
      · rfl
      · exact List.cons_ne_nil next parts

theorem visible_expandTabs (line : Text) : visible (expandTabs line) = visible line := by
  have htab : isBlank '\t' = true := by decide
  rw [expandTabs, visible_expandTabsFrom, ← Text.visible_join htab, Text.join_splitOn]

theorem separate_expandTabs (h : Separate line) : Separate (expandTabs line) := by
  have hblank : (' ' : Char) ≠ Text.joiner ∧ (' ' : Char) ≠ Text.emojiSelector := by decide
  have hparts : ∀ (parts : List Text) (column : Nat), (∀ part ∈ parts, Separate part) →
      Separate (expandTabsFrom column parts) := by
    intro parts
    induction parts with
    | nil => exact fun _ _ => List.forall_mem_nil _
    | cons part parts ih =>
      intro column hall
      have hpart := hall part List.mem_cons_self
      cases parts with
      | nil => exact hpart
      | cons next parts =>
        intro c hc
        rw [expandTabsFrom] at hc
        · rcases List.mem_append.mp hc with hc | hc
          · rcases List.mem_append.mp hc with hc | hc
            · exact hpart c hc
            · rwa [List.eq_of_mem_replicate hc]
          · exact ih _ (fun other hother => hall other (List.mem_cons_of_mem _ hother)) c hc
        · exact List.cons_ne_nil next parts
  exact hparts _ 0 fun part hpart c hc => h c (Text.mem_of_mem_splitOn hpart hc)

/-! ### Words -/

theorem flatten_pair (runs : List Text) : (wordsWithBlanks.pair runs).flatten = runs.flatten := by
  fun_induction wordsWithBlanks.pair runs with
  | case1 word blanks rest ih => simp [ih]
  | case2 word => rfl
  | case3 => rfl

theorem pair_ne_nil {runs : List Text} (h : runs ≠ []) : wordsWithBlanks.pair runs ≠ [] := by
  fun_cases wordsWithBlanks.pair runs with
  | case1 => exact List.cons_ne_nil _ _
  | case2 => exact List.cons_ne_nil _ _
  | case3 => exact absurd rfl h

theorem flatten_wordsWithBlanks (line : Text) :
    (wordsWithBlanks line).flatten = line ∨ wordsWithBlanks line = [] ∧ ∀ c ∈ line, isBlank c = true := by
  have hruns : (line.splitBy fun a b => isBlank a == isBlank b).flatten = line := List.flatten_splitBy _ line
  unfold wordsWithBlanks
  cases hsplit : line.splitBy fun a b => isBlank a == isBlank b with
  | nil =>
    rw [hsplit] at hruns
    exact Or.inl hruns
  | cons first rest =>
    rw [hsplit] at hruns
    dsimp only
    split_ifs with hblank
    · rw [wordsWithBlanks.lead]
      cases hpair : wordsWithBlanks.pair rest with
      | nil =>
        have hrest : rest = [] := by_contra fun hne => pair_ne_nil hne hpair
        rw [hrest, List.flatten_singleton] at hruns
        rw [← hruns]
        exact Or.inr ⟨rfl, List.all_eq_true.mp hblank⟩
      | cons word words =>
        have hflatten := flatten_pair rest
        rw [hpair] at hflatten
        rw [List.flatten_cons] at hruns hflatten
        exact Or.inl (by rw [List.flatten_cons, List.append_assoc, hflatten, hruns])
    · exact Or.inl ((flatten_pair _).trans hruns)

/-! ### Pieces of long words -/

theorem cutClusters_spec (clusters : List Cluster) {piece : Text} {used : Nat} (hused : used = width piece)
    (hroom : used ≤ room)
    (hall : ∀ cluster ∈ clusters, cluster.cells = width cluster.content ∧ cluster.cells ≤ room) :
    (cutClusters room piece used clusters).flatten = piece ++ clusters.flatMap Cluster.content ∧
      ∀ part ∈ cutClusters room piece used clusters, width part ≤ room := by
  induction clusters generalizing piece used with
  | nil =>
    rw [cutClusters]
    split_ifs with hempty
    · simp [List.isEmpty_iff.mp hempty]
    · simpa [← hused] using hroom
  | cons cluster clusters ih =>
    obtain ⟨hcells, hle⟩ := hall cluster List.mem_cons_self
    have hrest : ∀ other ∈ clusters, other.cells = width other.content ∧ other.cells ≤ room :=
      fun other hother => hall other (List.mem_cons_of_mem _ hother)
    rw [cutClusters]
    split_ifs with hfits
    · have hsame : used + cluster.cells = width (piece ++ cluster.content) := by simp [hused, hcells]
      obtain ⟨hflatten, hparts⟩ := ih hsame hfits hrest
      exact ⟨by rw [hflatten]; simp, hparts⟩
    · obtain ⟨hflatten, hparts⟩ := ih hcells hle hrest
      refine ⟨by rw [List.flatten_cons, hflatten, List.flatMap_cons], fun part hpart => ?_⟩
      rcases List.mem_cons.mp hpart with rfl | hpart
      · exact hused ▸ hroom
      · exact hparts part hpart

theorem cutWord_spec {word : Text} (hroom : 2 ≤ room) (h : Separate word) :
    (cutWord room word).flatten = word ∧ ∀ part ∈ cutWord room word, width part ≤ room := by
  obtain ⟨hcontent, hall⟩ := Text.clusters_spec h
  have hclusters : ∀ cluster ∈ Text.clusters word, cluster.cells = width cluster.content ∧ cluster.cells ≤ room :=
    fun cluster hmem => ⟨(hall cluster hmem).1, Nat.le_trans (hall cluster hmem).2 hroom⟩
  have hspec := cutClusters_spec (Text.clusters word) Text.width_nil.symm (Nat.zero_le room) hclusters
  rwa [hcontent] at hspec

/-! ### Lines -/

/-- Behind words, a blank text changes nothing, and another one brings its own end. -/
theorem dropEndWhile_append (text more : Text) :
    Text.dropEndWhile isBlank (text ++ more) =
      if Text.dropEndWhile isBlank more = [] then Text.dropEndWhile isBlank text
      else text ++ Text.dropEndWhile isBlank more := by
  simp only [Text.dropEndWhile, List.reverse_append, List.dropWhile_append, List.reverse_eq_nil_iff,
    List.isEmpty_iff]
  split_ifs <;> simp

theorem width_dropEndWhile_le (text : Text) : width (Text.dropEndWhile isBlank text) ≤ width text := by
  obtain ⟨blanks, hsplit⟩ := List.rdropWhile_prefix isBlank text
  have hwidth := congrArg width hsplit
  rw [Text.width_append] at hwidth
  change width (List.rdropWhile isBlank text) ≤ width text
  omega

/-- The line fits but for the blanks at its end, and no character of it changes the cells of another. -/
structure Fits (room : Nat) (line : Text) : Prop where
  separate : Separate line
  width_le : width (Text.dropEndWhile isBlank line) ≤ room

theorem fits_cutWord {word : Text} (hroom : 2 ≤ room) (h : Separate word) :
    (cutWord room word).flatten = word ∧ ∀ piece ∈ cutWord room word, Fits room piece := by
  obtain ⟨hcut, hpieces⟩ := cutWord_spec hroom h
  refine ⟨hcut, fun piece hmem => ?_⟩
  have hseparate : Separate piece := fun c hc => h c (hcut ▸ List.mem_flatten.mpr ⟨piece, hmem, hc⟩)
  exact ⟨hseparate, Nat.le_trans (width_dropEndWhile_le piece) (hpieces piece hmem)⟩

theorem Fits.begun (h : Fits room line) :
    (if line.isEmpty then [] else [line]).flatten = line ∧
      ∀ placed ∈ (if line.isEmpty then [] else [line]), Fits room placed := by
  split_ifs with hempty
  · exact ⟨(List.isEmpty_iff.mp hempty).symm, List.forall_mem_nil _⟩
  · exact ⟨List.append_nil line, List.forall_mem_singleton.mpr h⟩

theorem Fits.append {word : Text} (h : Fits room line) (hword : Separate word)
    (hroom : width line + width (Text.dropEndWhile isBlank word) ≤ room) : Fits room (line ++ word) := by
  refine ⟨fun c hc => (List.mem_append.mp hc).elim (h.separate c) (hword c), ?_⟩
  rw [dropEndWhile_append]
  split_ifs
  · exact h.width_le
  · rwa [Text.width_append]

theorem place_spec (hroom : 2 ≤ room) (words : List Text) {line : Text} {used : Nat}
    (hused : used = width line) (hline : Fits room line) (hwords : ∀ word ∈ words, Separate word) :
    (place room line used words).flatten = line ++ words.flatten ∧
      ∀ placed ∈ place room line used words, Fits room placed := by
  induction words generalizing line used with
  | nil => exact ⟨rfl, fun placed hplaced => List.mem_singleton.mp hplaced ▸ hline⟩
  | cons word words ih =>
    have hword := hwords word List.mem_cons_self
    have hrest : ∀ other ∈ words, Separate other := fun other hother => hwords other (List.mem_cons_of_mem _ hother)
    have hneed : cells (Text.dropEndWhile isBlank word) = width (Text.dropEndWhile isBlank word) :=
      Text.cells_eq fun c hc => hword c ((List.rdropWhile_prefix _ _).subset hc)
    rw [place]
    simp only [hneed, Text.cells_eq hword]
    by_cases hfits : used + width (Text.dropEndWhile isBlank word) ≤ room
    · -- the word stands behind the line
      rw [if_pos hfits]
      have hsum : used + width word = width (line ++ word) := by rw [Text.width_append, hused]
      obtain ⟨hflatten, hplaced⟩ := ih hsum (hline.append hword (hused ▸ hfits)) hrest
      exact ⟨by rw [hflatten, List.flatten_cons, List.append_assoc], hplaced⟩
    · rw [if_neg hfits]
      by_cases hlong : room < width (Text.dropEndWhile isBlank word)
      · -- the word is cut, and its last piece is the line that goes on
        rw [if_pos hlong]
        have hbefore := hline.begun
        generalize (if line.isEmpty then [] else [line]) = before at hbefore ⊢
        obtain ⟨hcut, hpiece⟩ := fits_cutWord hroom hword
        cases hreverse : (cutWord room word).reverse with
        | nil =>
          rw [List.reverse_eq_nil_iff.mp hreverse] at hcut
          obtain ⟨hflatten, hplaced⟩ := ih Text.width_nil.symm ⟨List.forall_mem_nil _, Nat.zero_le _⟩ hrest
          refine ⟨?_, fun placed hmem => (List.mem_append.mp hmem).elim (hbefore.2 placed) (hplaced placed)⟩
          rw [List.flatten_append, hbefore.1, hflatten, List.flatten_cons, ← hcut]
          rfl
        | cons last pieces =>
          have hsplit := List.reverse_eq_cons_iff.mp hreverse
          rw [hsplit] at hcut hpiece
          have hlast := hpiece last (by simp)
          obtain ⟨hflatten, hplaced⟩ := ih (Text.cells_eq hlast.separate) hlast hrest
          refine ⟨?_, fun placed hmem => ?_⟩
          · rw [List.flatten_append, List.flatten_append, hbefore.1, hflatten, List.flatten_cons, ← hcut]
            simp
          · rcases List.mem_append.mp hmem with hmem | hmem
            · rcases List.mem_append.mp hmem with hmem | hmem
              · exact hbefore.2 placed hmem
              · exact hpiece placed (List.mem_append_left _ hmem)
            · exact hplaced placed hmem
      · -- the word begins a line
        rw [if_neg hlong]
        obtain ⟨hflatten, hplaced⟩ := ih rfl ⟨hword, Nat.not_lt.mp hlong⟩ hrest
        refine ⟨by rw [List.flatten_cons, hflatten, List.flatten_cons], fun placed hmem => ?_⟩
        rcases List.mem_cons.mp hmem with rfl | hmem
        · exact hline
        · exact hplaced placed hmem

/-! ### Filling -/

theorem visible_seen (h : Fits room line) : visible (seen room line) = visible line := by
  have hsplit : Text.dropEndWhile isBlank line ++ line.rtakeWhile isBlank = line :=
    List.rdropWhile_append_rtakeWhile
  have hblank : ∀ c ∈ line.rtakeWhile isBlank, isBlank c = true := fun _ => List.mem_rtakeWhile_imp
  have hwidth := h.width_le
  have hseparate := h.separate
  rw [seen, trimBeyond]
  generalize Text.dropEndWhile isBlank line = start at hsplit hwidth ⊢
  generalize line.rtakeWhile isBlank = blanks at hsplit hblank
  subst hsplit
  generalize hkept : (start ++ blanks).length -
    min ((start ++ blanks).length - start.length) ((start ++ blanks).length - room) = kept
  have hle : start.length ≤ kept := by
    rw [List.length_append] at hkept
    omega
  rw [List.take_append, List.take_of_length_le hle, Text.visible_append, Text.visible_of_blank hblank, List.append_nil]
  refine Text.visible_fit (fun c hc => ?_) (fun c hc => hblank c (List.mem_of_mem_take hc)) hwidth
  exact hseparate c ((List.mem_append.mp hc).elim (List.mem_append_left _) fun hmem =>
    List.mem_append_right _ (List.mem_of_mem_take hmem))

theorem linePieces_spec (hroom : 2 ≤ room) (h : Separate line) :
    (linePieces room line).flatten = line ∧ ∀ piece ∈ linePieces room line, Fits room piece := by
  rw [linePieces]
  cases hwords : wordsWithBlanks line with
  | nil =>
    refine ⟨List.append_nil _, List.forall_mem_singleton.mpr ⟨h, ?_⟩⟩
    have hblank : ∀ c ∈ line, isBlank c = true := by
      rcases flatten_wordsWithBlanks line with hflatten | ⟨-, hblank⟩
      · rw [hwords] at hflatten
        rw [← hflatten]
        exact List.forall_mem_nil _
      · exact hblank
    have hnil : Text.dropEndWhile isBlank line = [] := List.rdropWhile_eq_nil_iff.mpr hblank
    rw [hnil]
    exact Nat.zero_le room
  | cons word words =>
    have hflatten : (word :: words).flatten = line := by
      rcases flatten_wordsWithBlanks line with hflatten | ⟨hnone, -⟩
      · rwa [hwords] at hflatten
      · rw [hwords] at hnone
        cases hnone
    have hall : ∀ other ∈ word :: words, Separate other := fun other hother c hc =>
      h c (hflatten ▸ List.mem_flatten.mpr ⟨other, hother, hc⟩)
    have hempty : Fits room [] := ⟨List.forall_mem_nil _, Nat.zero_le room⟩
    obtain ⟨hplaced, hfits⟩ := place_spec hroom (word :: words) Text.width_nil.symm hempty hall
    exact ⟨hplaced.trans hflatten, hfits⟩

theorem visible_fillLine (hroom : 2 ≤ room) (h : Separate line) :
    visible (fillLine room line).flatten = visible line := by
  obtain ⟨hflatten, hfits⟩ := linePieces_spec hroom (separate_expandTabs h)
  rw [fillLine, Text.visible_flatten, List.flatMap_map,
    List.flatMap_congr fun piece hmem => visible_seen (hfits piece hmem), ← Text.visible_flatten, hflatten,
    visible_expandTabs]

theorem fit_of_mem_fill (hroom : 2 ≤ room) (h : Separate text) (hmem : line ∈ fill room text) :
    Text.fit room line = line := by
  obtain ⟨source, hsource, hline⟩ := List.mem_flatMap.mp hmem
  have hseparate : Separate source := fun c hc => h c (Text.mem_of_mem_splitOn hsource hc)
  obtain ⟨-, hfits⟩ := linePieces_spec hroom (separate_expandTabs hseparate)
  obtain ⟨piece, hpiece, rfl⟩ := List.mem_map.mp hline
  exact Text.fit_fit (fun c hc => (hfits piece hpiece).separate c (List.mem_of_mem_take hc)) room

/-- **Folding loses nothing but blanks.** The lines of a text show its characters, in order, without its
blanks. -/
theorem visible_fill (hroom : 2 ≤ room) (h : Separate text) : visible (fill room text).flatten = visible text := by
  have hend : isBlank '\n' = true := by decide
  have hline : ∀ line ∈ Text.splitOn '\n' text, (fillLine room line).flatMap visible = visible line := by
    intro line hmem
    rw [← Text.visible_flatten]
    exact visible_fillLine hroom fun c hc => h c (Text.mem_of_mem_splitOn hmem hc)
  rw [fill, Text.visible_flatten, List.flatMap_assoc, List.flatMap_congr hline, ← Text.visible_join hend,
    Text.join_splitOn]

end BraceLink.Terminal
