import BraceLink.Commonmark.Block.Line
import BraceLink.Commonmark.LinkParts

/-!
# Blocks

The tree of a document. Paragraphs and headings hold their text as it was written; it is read when all
definitions are known.
-/

namespace BraceLink.Commonmark

inductive Block where
  | paragraph (content : Text)
  | heading (level : Nat) (content : Text)
  | rule
  | code (content : Text)
  | fence (info content : Text)
  | html (content : Text)
  | quote (children : List Block)
  /-- A list with its first number, if its items are numbered. Paragraphs of a tight list are shown
  without an element of their own. -/
  | list (first : Option Nat) (tight : Bool) (items : List (List Block))

structure Scope where
  lines : Array Line
  /-- Paragraphs do not go on beyond this line. -/
  lineMax : Nat
  /-- The column where the content of the container begins. -/
  indent : Nat := 0
  /-- The column where the content around the innermost list begins. -/
  listIndent : Option Nat := none
  /-- How many elements are open. -/
  level : Nat := 0

namespace Scope

def line (scope : Scope) (n : Nat) : Line := scope.lines.getD n {}

def isEmpty (scope : Scope) (n : Nat) : Bool := (scope.line n).isEmpty

/-- Whether the line is indented far enough for code. -/
def isCode (scope : Scope) (n : Nat) : Bool := (scope.indent : Int) + 4 ≤ (scope.line n).indent

/-- Whether the line is indented less than the content of the container. -/
def isOutdented (scope : Scope) (n : Nat) : Bool := (scope.line n).indent < (scope.indent : Int)

/-- The next line with content, from the given one on. -/
def skipEmpty (scope : Scope) (n : Nat) : Nat :=
  if n < scope.lineMax ∧ scope.isEmpty n then scope.skipEmpty (n + 1) else n
termination_by scope.lineMax - n

def setLine (scope : Scope) (n : Nat) (line : Line) : Scope :=
  { scope with lines := scope.lines.setIfInBounds n line }

/-- The lines from one number up to another one. -/
def range (scope : Scope) (first last : Nat) : List Line :=
  (List.range' first (last - first)).map scope.line

/-- The text of several lines without the indentation up to a column. -/
def cut (scope : Scope) (first last indent : Nat) : Text :=
  Text.join ['\n'] ((scope.range first last).map fun line => line.cut indent)

/-- The text of several lines without the indentation up to a column, with all line ends. -/
def cutWithEnd (scope : Scope) (first last indent : Nat) : Text :=
  (scope.range first last).flatMap fun line => line.cutWithEnd indent

end Scope

end BraceLink.Commonmark
