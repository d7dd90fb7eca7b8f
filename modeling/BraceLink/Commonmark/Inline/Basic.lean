import BraceLink.Handler.Basic
import BraceLink.Html.Escape
import BraceLink.Table

/-!
# Inline content

The pieces that a paragraph consists of, and the state of reading them. Pieces come with the depth of
the elements that are open before them. Runs of emphasis marks are kept as marks with a number until
it is known which of them belong together.
-/

namespace BraceLink.Commonmark

inductive Node where
  | text (content : Text)
  /-- A text that was written as an escape or a reference. -/
  | special (content : Text)
  /-- An emphasis mark, which is a text unless it gets a partner. -/
  | mark (symbol : Char) (number : Nat)
  | code (content : Text)
  | html (content : Text)
  | softBreak
  | hardBreak
  /-- Opens a link; `made` tells a link that was not written with brackets. -/
  | linkOpen (attrs : List (Text × Text)) (made : Bool)
  | linkClose (made : Bool)
  | emphasisOpen (strong : Bool)
  | emphasisClose (strong : Bool)
  | image (attrs : List (Text × Text)) (content : Text) (children : List Node)

namespace Node

def kindName : Node → Text
  | .text _ | .mark _ _ => "text"
  | .special _ => "text_special"
  | .code _ => "code_inline"
  | .html _ => "html_inline"
  | .softBreak => "softbreak"
  | .hardBreak => "hardbreak"
  | .linkOpen _ _ => "link_open"
  | .linkClose _ => "link_close"
  | .emphasisOpen strong => if strong then "strong_open" else "em_open"
  | .emphasisClose strong => if strong then "strong_close" else "em_close"
  | .image _ _ _ => "image"

/-- The element that a piece belongs to. -/
def tag : Node → Text
  | .text _ | .special _ | .mark _ _ | .html _ => []
  | .code _ => "code"
  | .softBreak | .hardBreak => "br"
  | .linkOpen _ _ | .linkClose _ => "a"
  | .emphasisOpen strong | .emphasisClose strong => if strong then "strong" else "em"
  | .image _ _ _ => "img"

/-- One for a piece that opens an element, minus one for a piece that closes one. -/
def nesting : Node → Int
  | .linkOpen _ _ | .emphasisOpen _ => 1
  | .linkClose _ | .emphasisClose _ => -1
  | _ => 0

def attrs : Node → List (Text × Text)
  | .linkOpen attrs _ | .image attrs _ _ => attrs
  | _ => []

def content : Node → Text
  | .text content | .special content | .code content | .html content => content
  | .mark symbol _ => [symbol]
  | .image _ content _ => content
  | _ => []

/-- A remark on how a piece came about. -/
def info : Node → Text
  | .linkOpen _ true | .linkClose true => "auto"
  | _ => []

end Node

/-- A piece with the number of elements that are open before it. -/
structure Piece where
  node : Node
  level : Nat

/-- A mark of a run of emphasis marks. -/
structure Delimiter where
  symbol : Char
  /-- The length of the run. -/
  length : Nat
  /-- The number of the mark. -/
  number : Nat
  opens : Bool
  closes : Bool
  /-- The position of the partner that closes what this mark opens. -/
  partner : Option Nat := none
  deriving Repr

/-- The state of reading a paragraph. -/
structure State where
  src : Text
  /-- The offset of the next character. -/
  pos : Nat := 0
  /-- The offset where reading ends for now. -/
  stop : Nat
  /-- Text that has been read and is not a piece yet. -/
  pending : Text := []
  pieces : List Piece := []
  level : Nat := 0
  /-- The emphasis marks since the innermost open link. -/
  delimiters : List Delimiter := []
  /-- The emphasis marks around the open links, the innermost link first. -/
  outer : List (List Delimiter) := []
  /-- The emphasis marks inside links that are closed. -/
  closed : List (List Delimiter) := []
  /-- Where the pieces end that have been skipped, by their offsets. -/
  skipped : List (Nat × Nat) := []

namespace State

/-- The state before anything has been read. -/
def start (src : Text) : State := { src, stop := src.length }

def char? (s : State) (offset : Nat) : Option Char := s.src[offset]?

def next? (s : State) : Option Char := s.char? s.pos

def rest (s : State) (offset : Nat) : Text := s.src.drop offset

/-- The text from one offset up to another one. -/
def slice (s : State) (first last : Nat) : Text := (s.src.drop first).take (last - first)

/-- Makes the pending text a piece. -/
def flush (s : State) : State :=
  if s.pending.isEmpty then s
  else { s with pieces := s.pieces ++ [⟨.text s.pending, s.level⟩], pending := [] }

/-- Adds a piece that neither opens nor closes an element. -/
def push (s : State) (node : Node) : State :=
  let s := s.flush
  { s with pieces := s.pieces ++ [⟨node, s.level⟩] }

/-- Adds a piece that opens an element. -/
def pushOpen (s : State) (node : Node) : State :=
  let s := s.push node
  { s with level := s.level + 1, outer := s.delimiters :: s.outer, delimiters := [] }

/-- Adds a piece that closes the innermost element. -/
def pushClose (s : State) (node : Node) : State :=
  let s := s.flush
  { s with
    level := s.level - 1
    closed := s.closed ++ [s.delimiters]
    delimiters := s.outer.headD []
    outer := s.outer.tail
    pieces := s.pieces ++ [⟨node, s.level - 1⟩] }

def addPending (s : State) (text : Text) : State := { s with pending := s.pending ++ text }

def moveTo (s : State) (offset : Nat) : State := { s with pos := offset }

end State

end BraceLink.Commonmark
