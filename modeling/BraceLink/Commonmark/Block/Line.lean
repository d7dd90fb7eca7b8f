import BraceLink.Text.Blank

/-!
# Lines

A document is read line by line. A line knows how far its content is indented, in columns, where a tab
reaches to the next multiple of four. A container that takes marks from the beginning of a line changes
what counts as its beginning.
-/

namespace BraceLink.Commonmark

structure Line where
  /-- The text from the beginning of the line on, without the line end. -/
  text : Text := []
  /-- How many characters stand before the content. -/
  shift : Nat := 0
  /-- The column of the content; minus one for a line that only goes on with a paragraph. -/
  indent : Int := 0
  /-- How many columns have been taken from the beginning of the line. -/
  taken : Nat := 0
  /-- Whether a line end follows. -/
  ended : Bool := true
  deriving Repr

namespace Line

def content (line : Line) : Text := line.text.drop line.shift

def isEmpty (line : Line) : Bool := line.text.length ≤ line.shift

def contentWithEnd (line : Line) : Text :=
  line.content ++ if line.ended then ['\n'] else []

def nextColumn (taken column : Nat) (c : Char) : Nat :=
  if c = '\t' then column + (4 - (column + taken) % 4) else column + 1

/-- The column after several characters. -/
def columnAfter (taken column : Nat) (text : Text) : Nat :=
  text.foldl (nextColumn taken) column

/-- Whether the character is a space or a tab. -/
def isGap (c : Char) : Bool := c = ' ' || c = '\t'

def ofText (text : Text) (ended : Bool) : Line :=
  let gap := text.takeWhile isGap
  { text, shift := gap.length, indent := columnAfter 0 0 gap, ended }

/-- The lines of pieces between line ends; the last piece counts only if it has content. -/
def ofPieces : List Text → List Line
  | [] => []
  | [last] => if last.all isGap then [] else [ofText last false]
  | piece :: rest => ofText piece true :: ofPieces rest

def all (source : Text) : Array Line := (ofPieces (Text.splitOn '\n' source)).toArray

/-- Drops the indentation up to a column: spaces and tabs, and before the content anything. What a tab
takes too much is given back as spaces. -/
def dropColumns (taken target column index shift : Nat) : Text → Text
  | [] => List.replicate (column - target) ' '
  | c :: rest =>
    if column < target then
      if isGap c then dropColumns taken target (nextColumn taken column c) (index + 1) shift rest
      else if index < shift then dropColumns taken target (column + 1) (index + 1) shift rest
      else c :: rest
    else List.replicate (column - target) ' ' ++ c :: rest

/-- The text of a line without the indentation up to a column. -/
def cut (line : Line) (indent : Nat) : Text :=
  dropColumns line.taken indent 0 0 line.shift line.text

def cutWithEnd (line : Line) (indent : Nat) : Text :=
  let newline : Text := if line.ended then ['\n'] else []
  dropColumns line.taken indent 0 0 line.shift (line.text ++ newline)

end Line

/-- The source with the line ends and without the character that Markdown takes as it has it: a line
ends with a line feed, and the null character is replaced. -/
def tidy : Text → Text
  | [] => []
  | '\r' :: '\n' :: rest => '\n' :: tidy rest
  | '\r' :: rest => '\n' :: tidy rest
  | c :: rest => (if c.toNat = 0 then Char.ofNat 0xFFFD else c) :: tidy rest

end BraceLink.Commonmark
