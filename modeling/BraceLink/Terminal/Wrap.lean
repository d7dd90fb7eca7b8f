import BraceLink.Text.Blank
import BraceLink.Text.Cells

/-!
# Filling lines

Text on a terminal is filled into lines: a word that does not fit behind the words before it begins a
new line, and a word that fits on no line is cut where the line is full. Blanks stay with the word in
front of them, and are dropped where they reach beyond the end of the line.

* `fill`: the lines of a text.
* `keeps`: whether something of a stretch of a text is left in these lines.
* `center`, `padRight`: a line in the middle of its width, or at the left of it.
-/

namespace BraceLink.Terminal

open Text (cells fit isBlank)

def screenWidth : Nat := 80

/-- The text with blanks up to the next tab stop for each tab, where the text begins at `column`. -/
def expandTabsFrom (column : Nat) : List Text → Text
  | [] => []
  | [last] => last
  | part :: rest =>
    let reached := column + cells part + 1
    let stop := (reached + 7) / 8 * 8
    part ++ List.replicate (stop - column - cells part) ' ' ++ expandTabsFrom stop rest

/-- The line with blanks for its tabs, which stand every eight cells. -/
def expandTabs (line : Text) : Text := expandTabsFrom 0 (Text.splitOn '\t' line)

/-- The words of a line with the blanks behind them; the first word has the blanks before it, too. A
line of blanks has no word. -/
def wordsWithBlanks (line : Text) : List Text :=
  let runs := line.splitBy fun a b => isBlank a == isBlank b
  match runs with
  | [] => []
  | first :: rest => if first.all isBlank then lead first rest else pair (first :: rest)
where
  /-- Each word with the blanks behind it. -/
  pair : List Text → List Text
    | word :: blanks :: rest => (word ++ blanks) :: pair rest
    | [word] => [word]
    | [] => []
  /-- The same, with blanks in front of the first word. -/
  lead (blanks : Text) (rest : List Text) : List Text :=
    match pair rest with
    | [] => []
    | word :: words => (blanks ++ word) :: words

/-- The pieces of clusters that fill lines of the width; `used` cells of the first line are taken by
the piece before. -/
def cutClusters (width : Nat) (piece : Text) (used : Nat) : List Text.Cluster → List Text
  | [] => if piece.isEmpty then [] else [piece]
  | cluster :: rest =>
    if used + cluster.cells ≤ width then
      cutClusters width (piece ++ cluster.content) (used + cluster.cells) rest
    else piece :: cutClusters width cluster.content cluster.cells rest

/-- The pieces of a word that fill lines of the width. -/
def cutWord (width : Nat) (word : Text) : List Text := cutClusters width [] 0 (Text.clusters word)

/-- The lines of words behind the line so far, of which `used` cells are taken. -/
def place (width : Nat) (line : Text) (used : Nat) : List Text → List Text
  | [] => [line]
  | word :: rest =>
    let need := cells (Text.dropEndWhile isBlank word)
    if used + need ≤ width then place width (line ++ word) (used + cells word) rest
    else if width < need then
      let before := if line.isEmpty then [] else [line]
      match (cutWord width word).reverse with
      | [] => before ++ place width [] 0 rest
      | last :: pieces => before ++ pieces.reverse ++ place width last (cells last) rest
    else line :: place width word (cells word) rest

/-- The line without blanks at its end as far as it has more than `width` characters. -/
def trimBeyond (width : Nat) (line : Text) : Text :=
  let blanks := line.length - (Text.dropEndWhile isBlank line).length
  line.take (line.length - min blanks (line.length - width))

/-- The pieces of a line that fill lines, with all their blanks. -/
def linePieces (width : Nat) (line : Text) : List Text :=
  match wordsWithBlanks line with
  | [] => [line]
  | words => place width [] 0 words

/-- What is seen of a piece in a line of its own. -/
def seen (width : Nat) (piece : Text) : Text := fit width (trimBeyond width piece)

def fillLine (width : Nat) (line : Text) : List Text := (linePieces width (expandTabs line)).map (seen width)

def fill (width : Nat) (text : Text) : List Text :=
  (Text.splitOn '\n' text).flatMap (fillLine width)

/-! ## Stretches of a text

A stretch, which may be empty, is kept as long as the text is not cut. Where it is cut, only a part of it
that is not empty is kept, and only if it begins before the end of what is seen. -/

/-- From one place of a text to another. -/
abbrev Stretch := Nat × Nat

/-- What a part of the text with its place and its length has of a stretch. -/
def Stretch.inside? (stretch : Stretch) (start length : Nat) : Option Stretch :=
  let first := max stretch.1 start
  let last := min stretch.2 (start + length)
  if first < last then some (first - start, last - start) else none

/-- The stretch where blanks stand for tabs. -/
def expandStretch? (line : Text) (stretch : Stretch) : Option Stretch :=
  if !line.contains '\t' then some stretch
  else if stretch.1 < stretch.2 then
    some ((expandTabs (line.take stretch.1)).length, (expandTabs (line.take stretch.2)).length)
  else none

/-- Whether a stretch is kept in one of the parts, the first of which begins at a place. -/
def keepsIn (keeps : Text → Stretch → Bool) (between : Nat) (stretch : Stretch) (start : Nat) : List Text → Bool
  | [] => false
  | part :: rest =>
    (stretch.inside? start part.length).any (keeps part) ||
      keepsIn keeps between stretch (start + part.length + between) rest

/-- Whether a stretch of a text is kept if the text is cut into parts with so many characters between them. -/
def keepsCut (keeps : Text → Stretch → Bool) (between : Nat) (parts : List Text) (stretch : Stretch) : Bool :=
  match parts with
  | [part] => keeps part stretch
  | parts => keepsIn keeps between stretch 0 parts

/-- Whether a stretch of a piece is kept in its line. -/
def keepsPiece (width : Nat) (piece : Text) (stretch : Stretch) : Bool :=
  let length := (seen width piece).length
  length = piece.length || stretch.1 < length

def keepsLine (width : Nat) (line : Text) (stretch : Stretch) : Bool :=
  (expandStretch? line stretch).any
    (keepsCut (keepsPiece width) 0 (linePieces width (expandTabs line)))

/-- Whether a stretch of a text is kept in the lines that the text fills. -/
def keeps (width : Nat) (text : Text) (stretch : Stretch) : Bool :=
  keepsCut (keepsLine width) 1 (Text.splitOn '\n' text) stretch

/-- The line cut at the width, or with blanks behind it. -/
def padRight (width : Nat) (line : Text) : Text :=
  let line := fit width line
  line ++ List.replicate (width - cells line) ' '

def center (width : Nat) (line : Text) : Text :=
  let line := fit width (Text.dropEndWhile isBlank line)
  padRight width (List.replicate ((width - cells line) / 2) ' ' ++ line)

end BraceLink.Terminal
