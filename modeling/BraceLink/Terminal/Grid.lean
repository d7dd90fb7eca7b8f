import BraceLink.Terminal.Markup

/-!
# Grids

A grid shows rows of cells between lines, under a title and, if its columns have heads, under these. Each
column is as wide as its widest cell; where the screen is too narrow the widest column gives way, and its
cells fill several lines.

* `Grid.render`: the grid on the screen.
* `print`: a marked text on the screen.
-/

namespace BraceLink.Terminal

/-- The marked text as lines of the screen. -/
def print (text : Text) : Except Markup.Error Text := do
  let marked ← Markup.marked text
  if marked.isFaulty screenWidth then throw .noShare
  return (fill screenWidth marked.text).flatMap (· ++ ['\n'])

/-- Rows of cells. Title, heads and cells are marked texts. -/
structure Grid where
  title : Text
  /-- The heads of the columns, if they have heads. -/
  heads : Option (List Text) := none
  rows : List (List Text)

namespace Grid

/-- The characters of a line that crosses the grid. -/
structure Rule where
  left : Char
  line : Char
  cross : Char
  right : Char

/-- The line above the heads. -/
def headTop : Rule := ⟨'┏', '━', '┳', '┓'⟩

/-- The line below the heads. -/
def headBottom : Rule := ⟨'┡', '━', '╇', '┩'⟩

/-- The line above the rows of a grid without heads. -/
def top : Rule := ⟨'┌', '─', '┬', '┐'⟩

/-- The line below the rows. -/
def bottom : Rule := ⟨'└', '─', '┴', '┘'⟩

/-- A line across columns of the given widths. -/
def Rule.draw (rule : Rule) (widths : List Nat) : Text :=
  rule.left ::
    Text.join [rule.cross] (widths.map fun width => List.replicate (width + 2) rule.line) ++
    [rule.right, '\n']

/-- Whether the character ends a line where lengths of lines are measured. -/
def endsLine (c : Char) : Bool :=
  let n := c.toNat
  (0x0A ≤ n && n ≤ 0x0D) || (0x1C ≤ n && n ≤ 0x1E) || n = 0x85 || n = 0x2028 || n = 0x2029

/-- The cells that the longest line of a text takes. -/
def longestLine (text : Text) : Nat :=
  ((text.splitBy fun a b => endsLine a == endsLine b).map
    fun line => if line.any endsLine then 0 else Text.cells line).foldl max 0

/-- The width of columns together. -/
def total (widths : List Nat) : Nat := widths.foldl (· + ·) 0

/-- The width of the widest cell in each column. -/
def naturalWidths : List (List Text) → List Nat
  | [] => []
  | row :: rows =>
    let widths := row.map longestLine
    match naturalWidths rows with
    | [] => widths
    | below => List.zipWith max widths below

/-- The widths of columns on the screen: no column is wider than the screen, and what is too much for
the screen comes off the widest column. -/
def fitWidths (widths : List Nat) : List Nat :=
  let frame := 3 * widths.length + 1
  let widths := widths.map (min · (screenWidth - (widths.length + 1) - 2))
  let widest := widths.foldl max 0
  let excess := total widths + frame - screenWidth
  widths.map fun width => if width = widest then width - excess else width

/-- The lines of a row between upright lines. -/
def drawRow (upright : Char) (widths : List Nat) (row : List Text) : Text :=
  let cells := List.zipWith (fun width text => (width, fill width text)) widths row
  let height := (cells.map fun cell => cell.2.length).foldl max 0
  (List.range height).flatMap fun i =>
    upright ::
      cells.flatMap (fun (width, lines) =>
        [' '] ++ padRight width ((lines[i]?).getD []) ++ [' ', upright]) ++
      ['\n']

def draw (title : Text) (heads : Option (List Text)) (rows : List (List Text)) : Text :=
  let widths := fitWidths (naturalWidths (heads.toList ++ rows))
  let width := total widths + 3 * widths.length + 1
  let above :=
    match heads with
    | some heads => headTop.draw widths ++ drawRow '┃' widths heads ++ headBottom.draw widths
    | none => top.draw widths
  (fill width title).flatMap (fun line => center width line ++ ['\n']) ++ above ++
    rows.flatMap (drawRow '│' widths) ++ bottom.draw widths

/-- Whether a style that cannot be read is seen in a row. -/
def isFaultyRow (widths : List Nat) (row : List Markup.Marked) : Bool :=
  (List.zipWith (fun width (cell : Markup.Marked) => cell.isFaulty width) widths row).any id

def rowTexts (row : List Markup.Marked) : List Text := row.map Markup.Marked.text

/-- The grid of marked texts, unless a style that cannot be read is seen in it. -/
def drawMarked (title : Markup.Marked) (heads : Option (List Markup.Marked)) (rows : List (List Markup.Marked)) :
    Except Markup.Error Text :=
  let all := heads.toList ++ rows
  let widths := fitWidths (naturalWidths (all.map rowTexts))
  if title.isFaulty (total widths + 3 * widths.length + 1) || all.any (isFaultyRow widths) then .error .noShare
  else .ok (draw title.text (heads.map rowTexts) (rows.map rowTexts))

/-- The grid on the screen. All cells are read before one is drawn. -/
def render (grid : Grid) : Except Markup.Error Text := do
  let heads ← grid.heads.mapM fun heads => heads.mapM Markup.marked
  let rows ← grid.rows.mapM fun row => row.mapM Markup.marked
  drawMarked (← Markup.marked grid.title) heads rows

end Grid

end BraceLink.Terminal
