import BraceLink.Text.Basic

/-!
# Places in a document

A cursor is the rest of a document with its place: the number of characters, the line and the column.
Line ends are the line feed, the next line control and the line and paragraph separators; the first two are
read as a line feed. A byte order mark takes no column.
-/

namespace BraceLink.Yaml

/-- Whether the character ends a line. -/
def isBreak (c : Char) : Bool := c = '\n' || c = '\u0085' || c = '\u2028' || c = '\u2029'

/-- Whether the character is a space or a tab. -/
def isBlank (c : Char) : Bool := c = ' ' || c = '\t'

def endsWord : Text → Bool
  | [] => true
  | c :: _ => isBlank c || isBreak c

def endsLine : Text → Bool
  | [] => true
  | c :: _ => isBreak c

/-- A line end as it is read. -/
def readAs (c : Char) : Char := if c = '\u0085' then '\n' else c

/-- Whether the text begins with one of the two marks between documents. -/
def startsMark (text : Text) : Bool :=
  match text with
  | '-' :: '-' :: '-' :: rest | '.' :: '.' :: '.' :: rest => endsWord rest
  | _ => false

/-- The rest of a document and its place. -/
structure Cursor where
  rest : Text
  index : Nat := 0
  line : Nat := 0
  column : Nat := 0
  /-- Whether the code of a half of a character stands before it. -/
  halves : Bool := false

namespace Cursor

/-- Moves behind the next character. -/
def next (c : Cursor) : Cursor :=
  match c.rest with
  | [] => c
  | first :: rest =>
    if isBreak first then { c with rest, index := c.index + 1, line := c.line + 1, column := 0 }
    else if first = '\uFEFF' then { c with rest, index := c.index + 1 }
    else { c with rest, index := c.index + 1, column := c.column + 1 }

/-- Moves behind several characters. -/
def advance (c : Cursor) : Nat → Cursor
  | 0 => c
  | n + 1 => c.next.advance n

/-- The characters that satisfy the condition, and the cursor behind them. -/
def readWhile (p : Char → Bool) (c : Cursor) : Text × Cursor :=
  let part := c.rest.takeWhile p
  (part, c.advance part.length)

/-- Moves behind the characters that satisfy the condition. -/
def skipWhile (p : Char → Bool) (c : Cursor) : Cursor := (c.readWhile p).2

def skipSpaces (c : Cursor) : Cursor := c.skipWhile (· = ' ')

/-- Moves to the end of the line if a comment begins here. -/
def skipComment (c : Cursor) : Cursor :=
  if c.rest.head? = some '#' then c.skipWhile fun d => !isBreak d else c

/-- The line end that stands here, as it is read. -/
def readBreak? (c : Cursor) : Option (Char × Cursor) :=
  match c.rest with
  | first :: _ => if isBreak first then some (readAs first, c.next) else none
  | [] => none

/-- Moves behind the line end, if one stands here. -/
def skipBreak (c : Cursor) : Cursor :=
  match c.readBreak? with
  | some (_, after) => after
  | none => c

end Cursor

end BraceLink.Yaml
