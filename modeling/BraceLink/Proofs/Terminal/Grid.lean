import BraceLink.Proofs.Outcome
import BraceLink.Proofs.Terminal.Wrap
import BraceLink.Terminal.Grid

/-!
# What grids show

A row takes as many lines as its highest cell, and in each column the lines show the folded cell with blanks behind
and below it (`visible_column`). So a row shows its cells (`drawRow_shows`), and a grid its rows (`draw_shows`), as
long as every column has room for a wide character.
-/

namespace BraceLink.Terminal.Grid

open Text (visible Separate)

variable {upright : Char} {widths : List Nat} {row : List Text} {rows : List (List Text)}

/-! ### What is shown -/

/-- A line of a row, of what stands in its columns. -/
def rowLine (upright : Char) (parts : List Text) : Text :=
  upright :: parts.flatMap (fun part => [' '] ++ part ++ [' ', upright]) ++ ['\n']

/-- The lines show the cells of a row, each in its column, but for blanks. -/
def ShowsRow (upright : Char) (row : List Text) (drawn : Text) : Prop :=
  ∃ (height : Nat) (columns : List (Nat → Text)),
    drawn = (List.range height).flatMap (fun i => rowLine upright (columns.map fun column => column i)) ∧
    List.Forall₂ (fun column text => visible ((List.range height).flatMap column) = visible text) columns row

def Shows (rows : List (List Text)) (drawn : Text) : Prop :=
  ∃ (above below : Text) (lines : List Text),
    drawn = above ++ lines.flatten ++ below ∧ List.Forall₂ (ShowsRow '│') rows lines

/-! ### Rows -/

theorem le_foldl_max (numbers : List Nat) (start : Nat) :
    start ≤ numbers.foldl max start ∧ ∀ n ∈ numbers, n ≤ numbers.foldl max start := by
  induction numbers generalizing start with
  | nil => exact ⟨Nat.le_refl start, List.forall_mem_nil _⟩
  | cons number numbers ih =>
    obtain ⟨hstart, hall⟩ := ih (max start number)
    refine ⟨Nat.le_trans (Nat.le_max_left _ _) hstart, fun n hn => ?_⟩
    rcases List.mem_cons.mp hn with rfl | hn
    · exact Nat.le_trans (Nat.le_max_right _ _) hstart
    · exact hall n hn

theorem visible_padRight {width : Nat} {line : Text} (h : Text.fit width line = line) :
    visible (padRight width line) = visible line := by
  rw [padRight, h, Text.visible_append, Text.visible_replicate, List.append_nil]

def column (width : Nat) (lines : List Text) (i : Nat) : Text := padRight width ((lines[i]?).getD [])

theorem visible_column {width height : Nat} {lines : List Text} (hheight : lines.length ≤ height)
    (hlines : ∀ line ∈ lines, Text.fit width line = line) :
    visible ((List.range height).flatMap (column width lines)) = visible lines.flatten := by
  have hnil : Text.fit width [] = [] := by
    rw [Text.fit]
    split_ifs <;> rfl
  induction lines generalizing height with
  | nil =>
    have hblank : ∀ i, visible (column width [] i) = [] := fun _ => visible_padRight hnil
    rw [List.flatMap_def, Text.visible_flatten, List.flatMap_map, List.flatMap_congr fun i _ => hblank i]
    simp
  | cons line lines ih =>
    cases height with
    | zero => cases hheight
    | succ height =>
      have hrest := ih (Nat.le_of_succ_le_succ hheight) fun other hother => hlines other (List.mem_cons_of_mem _ hother)
      rw [List.range_succ_eq_map, List.flatMap_cons, List.flatMap_map, Text.visible_append, List.flatten_cons,
        Text.visible_append, ← hrest, ← visible_padRight (hlines line List.mem_cons_self)]
      rfl

/-- The cells of a row, folded to the widths of the columns. -/
def folded (widths : List Nat) (row : List Text) : List (Nat × List Text) :=
  List.zipWith (fun width text => (width, fill width text)) widths row

theorem visible_folded {height : Nat} (hlength : widths.length = row.length) (hwidths : ∀ width ∈ widths, 2 ≤ width)
    (hrow : ∀ text ∈ row, Separate text) (hheight : ∀ cell ∈ folded widths row, cell.2.length ≤ height) :
    List.Forall₂ (fun cell text => visible ((List.range height).flatMap (column cell.1 cell.2)) = visible text)
      (folded widths row) row := by
  induction row generalizing widths with
  | nil =>
    rw [folded, List.zipWith_nil_right]
    exact .nil
  | cons text row ih =>
    obtain ⟨width, widths, rfl⟩ := List.exists_cons_of_length_eq_add_one hlength
    obtain ⟨hroom, hrooms⟩ := List.forall_mem_cons.mp hwidths
    obtain ⟨htext, hrow⟩ := List.forall_mem_cons.mp hrow
    obtain ⟨hfirst, hrest⟩ := List.forall_mem_cons.mp hheight
    refine .cons ?_ (ih (Nat.succ.inj hlength) hrooms hrow hrest)
    exact (visible_column hfirst fun line hline => fit_of_mem_fill hroom htext hline).trans (visible_fill hroom htext)

theorem drawRow_shows (hlength : widths.length = row.length) (hwidths : ∀ width ∈ widths, 2 ≤ width)
    (hrow : ∀ text ∈ row, Separate text) : ShowsRow upright row (drawRow upright widths row) := by
  let height := ((folded widths row).map fun cell => cell.2.length).foldl max 0
  have hheight : ∀ cell ∈ folded widths row, cell.2.length ≤ height := fun cell hmem =>
    (le_foldl_max _ 0).2 _ (List.mem_map_of_mem hmem)
  refine ⟨height, (folded widths row).map fun cell => column cell.1 cell.2, ?_, ?_⟩
  · refine List.flatMap_congr fun i _ => ?_
    rw [rowLine, List.map_map, List.flatMap_map]
    rfl
  · exact List.forall₂_map_left_iff.mpr (visible_folded hlength hwidths hrow hheight)

/-! ### Messages -/

theorem print_ok {text shown : Text} (h : Markup.marked text = .ok ⟨shown, []⟩) :
    ∃ output, Terminal.print text = .ok output :=
  ⟨_, by rw [Terminal.print, h]; rfl⟩

/-! ### Grids -/

/-- A grid without heads whose title can be read is drawn if its cells can be read, and no style that cannot be read
is seen in them. -/
theorem render_eq_ok_iff {grid : Grid} {title drawn : Text} (hheads : grid.heads = none)
    (htitle : Markup.marked grid.title = .ok ⟨title, []⟩) :
    grid.render = .ok drawn ↔ ∃ rows,
      List.Forall₂ (List.Forall₂ fun cell shown => Markup.marked cell = .ok shown) grid.rows rows ∧
        (∀ row ∈ rows, isFaultyRow (fitWidths (naturalWidths (rows.map rowTexts))) row = false) ∧
        drawn = draw title none (rows.map rowTexts) := by
  have hrows : ∀ rows, List.Forall₂ (List.Forall₂ fun cell shown => Markup.marked cell = .ok shown) grid.rows rows ↔
      (grid.rows.mapM fun row => row.mapM Markup.marked) = .ok rows := by
    intro rows
    rw [mapM_eq_ok_iff]
    simp only [mapM_eq_ok_iff]
  have hrender : grid.render =
      Except.bind (grid.rows.mapM fun row => row.mapM Markup.marked) (drawMarked ⟨title, []⟩ none) := by
    rw [render, hheads, htitle]
    rfl
  simp only [hrows, hrender]
  cases (grid.rows.mapM fun row => row.mapM Markup.marked) with
  | error error => exact iff_of_false (fun h => by cases h) fun ⟨_, h, _⟩ => by cases h
  | ok rows =>
    change drawMarked ⟨title, []⟩ none rows = .ok drawn ↔ _
    rw [drawMarked]
    simp only [Markup.Marked.isFaulty, List.any_nil, Bool.false_or, Option.toList_none, List.nil_append,
      Except.ok.injEq, exists_eq_left', List.any_eq_true]
    split_ifs with hfaulty
    · obtain ⟨row, hmem, hrow⟩ := hfaulty
      refine iff_of_false (fun h => by cases h) fun h => ?_
      rw [h.1 row hmem] at hrow
      cases hrow
    · simp only [not_exists, not_and, Bool.not_eq_true] at hfaulty
      simp only [Option.map_none, Except.ok.injEq]
      exact ⟨fun h => ⟨hfaulty, h.symm⟩, fun h => h.2.symm⟩

theorem draw_shows (title : Text) (hwidths : fitWidths (naturalWidths rows) = widths)
    (hroom : ∀ width ∈ widths, 2 ≤ width) (hlength : ∀ row ∈ rows, widths.length = row.length)
    (hrows : ∀ row ∈ rows, ∀ text ∈ row, Separate text) : Shows rows (draw title none rows) := by
  have hdrawn : List.Forall₂ (ShowsRow '│') rows (rows.map (drawRow '│' widths)) :=
    List.forall₂_map_right_iff.mpr <| List.forall₂_same.mpr fun row hrow =>
      drawRow_shows (hlength row hrow) hroom (hrows row hrow)
  let width := total widths + 3 * widths.length + 1
  refine ⟨(fill width title).flatMap (fun line => center width line ++ ['\n']) ++ top.draw widths,
    bottom.draw widths, _, ?_, hdrawn⟩
  rw [draw, Option.toList_none, List.nil_append, hwidths, ← List.flatMap_def]

end BraceLink.Terminal.Grid
