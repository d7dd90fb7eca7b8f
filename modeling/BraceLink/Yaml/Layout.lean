import BraceLink.Yaml.Token

/-!
# Layout

How a document is divided into tokens. Outside of brackets the indentation tells where collections begin and
end. A mapping key shows itself as such only by the colon behind it, so the place of every text that may turn
out to be a key is remembered; the key must stand in one line and take no more than 1024 characters.

A document is divided no further than is needed to know the next token (`Layout.ahead`): what stands behind a place
where it is refused is never looked at.
-/

namespace BraceLink.Yaml

/-- The place of a text that may turn out to be a key. -/
structure PossibleKey where
  /-- The number of tokens before it. -/
  number : Nat
  /-- Whether nothing but a key can stand here. -/
  required : Bool
  index : Nat
  line : Nat
  column : Nat
  deriving Repr

/-- The state of dividing a document. -/
structure Layout where
  cursor : Cursor
  /-- The tokens that have been found and not been taken. -/
  queue : List Token := []
  /-- The number of tokens that have been taken. -/
  taken : Nat := 0
  /-- The number of open brackets. -/
  depth : Nat := 0
  /-- The indentation of the innermost open block collection. -/
  indent : Int := -1
  /-- The indentations around it, the innermost first. -/
  outer : List Int := []
  /-- Whether a key may begin here. -/
  keyAllowed : Bool := true
  /-- The possible keys by the number of brackets around them. -/
  keys : List (Nat × PossibleKey) := []
  /-- Whether the end has been reached. -/
  isDone : Bool := false

namespace Layout

/-- Whether the place is inside of brackets. -/
def inFlow (s : Layout) : Bool := 0 < s.depth

/-- The number of tokens so far. -/
def number (s : Layout) : Nat := s.taken + s.queue.length

def push (s : Layout) (token : Token) : Layout := { s with queue := s.queue ++ [token] }

/-- Adds a token behind the first `number` ones. -/
def insert (s : Layout) (number : Nat) (token : Token) : Layout :=
  let place := number - s.taken
  { s with queue := s.queue.take place ++ token :: s.queue.drop place }

/-- Moves behind several characters. -/
def advance (s : Layout) (n : Nat) : Layout := { s with cursor := s.cursor.advance n }

def moveTo (s : Layout) (c : Cursor) : Layout := { s with cursor := c }

/-- Sets whether a key may begin here. -/
def allowKey (s : Layout) (allowed : Bool) : Layout := { s with keyAllowed := allowed }

/-- Forgets the keys that end too late. -/
def dropStale (s : Layout) : Except Error Layout :=
  let stale (key : PossibleKey) : Bool :=
    key.line ≠ s.cursor.line || key.index + 1024 < s.cursor.index
  if s.keys.any fun entry => stale entry.2 && entry.2.required then .error .malformed
  else .ok { s with keys := s.keys.filter fun entry => !stale entry.2 }

/-- Forgets the possible key between the present brackets. -/
def dropKey (s : Layout) : Except Error Layout :=
  match s.keys.lookup s.depth with
  | none => .ok s
  | some key =>
    if key.required then .error .malformed
    else .ok { s with keys := s.keys.filter fun entry => entry.1 ≠ s.depth }

/-- Remembers that a key may begin here. -/
def saveKey (s : Layout) : Except Error Layout := do
  if !s.keyAllowed then return s
  let s ← s.dropKey
  let key :=
    { number := s.number
      required := !s.inFlow && s.indent = s.cursor.column
      index := s.cursor.index
      line := s.cursor.line
      column := s.cursor.column }
  return { s with keys := (s.depth, key) :: s.keys }

/-- Ends the block collections that are indented by more than the column. -/
def unwindFrom (column : Int) (s : Layout) : List Int → Layout
  | [] => s
  | around :: outer =>
    if column < s.indent then
      unwindFrom column ({ s with indent := around, outer }.push .blockEnd) outer
    else s

/-- Ends the block collections that are indented by more than the column, outside of brackets. -/
def unwind (s : Layout) (column : Int) : Layout :=
  if s.inFlow then s else unwindFrom column s s.outer

/-- Begins a block collection at the column if it is indented more than the one around it; its token
comes behind the first `number` ones. -/
def indentTo (s : Layout) (column number : Nat) (token : Token) : Layout :=
  if s.indent < column then
    { s with indent := column, outer := s.indent :: s.outer }.insert number token
  else s

/-- Moves behind blanks, comments and line ends. -/
def skipSpace : Nat → Layout → Layout
  | 0, s => s
  | fuel + 1, s =>
    let c := s.cursor.skipSpaces.skipComment
    match c.readBreak? with
    | some (_, after) =>
      skipSpace fuel ((s.moveTo after).allowKey (s.keyAllowed || !s.inFlow))
    | none => s.moveTo c

/-! ## Tokens -/

def documentMark (s : Layout) (token : Token) : Except Error Layout := do
  let s ← (s.unwind (-1)).dropKey
  return (s.allowKey false |>.advance 3).push token

def readDirective (s : Layout) : Except Error Layout := do
  let s ← (s.unwind (-1)).dropKey
  let (found, after) ← directive s.cursor
  return ((s.allowKey false).moveTo after).push (.directive found)

def openBracket (s : Layout) (token : Token) : Except Error Layout := do
  let s ← s.saveKey
  return { (s.allowKey true).advance 1 with depth := s.depth + 1 }.push token

def closeBracket (s : Layout) (token : Token) : Except Error Layout := do
  if s.depth = 0 then throw .malformed
  let s ← s.dropKey
  return { (s.allowKey false).advance 1 with depth := s.depth - 1 }.push token

/-- A comma between brackets. -/
def readComma (s : Layout) : Except Error Layout := do
  let s ← (s.allowKey true).dropKey
  return (s.advance 1).push .comma

def readItem (s : Layout) : Except Error Layout := do
  if !s.inFlow && !s.keyAllowed then throw .malformed
  let s := if s.inFlow then s else s.indentTo s.cursor.column s.number .blockSequence
  let s ← (s.allowKey true).dropKey
  return (s.advance 1).push .item

def readKey (s : Layout) : Except Error Layout := do
  if !s.inFlow && !s.keyAllowed then throw .malformed
  let s := if s.inFlow then s else s.indentTo s.cursor.column s.number .blockMapping
  let s ← (s.allowKey !s.inFlow).dropKey
  return (s.advance 1).push .key

/-- The mark before a value; it may make what stands before it a key. -/
def readValue (s : Layout) : Except Error Layout := do
  match s.keys.lookup s.depth with
  | some key =>
    let s := { s with keys := s.keys.filter fun entry => entry.1 ≠ s.depth }.insert key.number .key
    let s := if s.inFlow then s else s.indentTo key.column key.number .blockMapping
    return ((s.allowKey false).advance 1).push .value
  | none =>
    if !s.inFlow && !s.keyAllowed then throw .malformed
    let s := if s.inFlow then s else s.indentTo s.cursor.column s.number .blockMapping
    let s ← (s.allowKey !s.inFlow).dropKey
    return (s.advance 1).push .value

/-- Something that can stand at the beginning of a key. -/
def readPart (s : Layout) (read : Cursor → Except Error (Token × Cursor)) : Except Error Layout := do
  let s ← s.saveKey
  let (token, after) ← read s.cursor
  return ((s.allowKey false).moveTo after).push token

def readBlock (s : Layout) (fold : Bool) : Except Error Layout := do
  let s ← (s.allowKey true).dropKey
  let (content, after) ← block fold s.indent s.cursor
  return (s.moveTo after).push (.scalar content false)

/-- A plain text; behind a line end another key may begin. -/
def readPlain (s : Layout) : Except Error Layout := do
  let s ← s.saveKey
  let ((content, ended), after) := plain s.inFlow (s.indent + 1) s.cursor
  return ((s.allowKey ended).moveTo after).push (.scalar content true)

/-- Whether a plain text begins here. -/
def startsPlain (inFlow : Bool) (first : Char) (rest : Text) : Bool :=
  if first ∈ "-?:,[]\x7B\x7D#&*!|>'\"%@\x60".toList then
    !endsWord rest && (first = '-' || (!inFlow && (first = '?' || first = ':')))
  else !isBlank first && !isBreak first

/-- Reads on to the next token or to the end. -/
def fetch (s : Layout) : Except Error Layout := do
  let s ← (skipSpace (s.cursor.rest.length + 1) s).dropStale
  let s := s.unwind s.cursor.column
  match s.cursor.rest with
  | [] =>
    let s ← (s.unwind (-1)).dropKey
    return { s.allowKey false with keys := [], isDone := true }
  | first :: rest =>
    let lineStart := s.cursor.column = 0
    let marks := lineStart && startsMark (first :: rest)
    let isMark := s.inFlow || endsWord rest
    if first = '%' && lineStart then s.readDirective
    else if first = '-' && marks then s.documentMark .documentStart
    else if first = '.' && marks then s.documentMark .documentEnd
    else if first = '[' then s.openBracket .openSequence
    else if first = Text.openBrace then s.openBracket .openMapping
    else if first = ']' then s.closeBracket .closeSequence
    else if first = Text.closeBrace then s.closeBracket .closeMapping
    else if first = ',' then s.readComma
    else if first = '-' && endsWord rest then s.readItem
    else if first = '?' && isMark then s.readKey
    else if first = ':' && isMark then s.readValue
    else if first = '*' then s.readPart fun c => (anchorName c).map fun (t, c) => (.again t, c)
    else if first = '&' then s.readPart fun c => (anchorName c).map fun (t, c) => (.anchor t, c)
    else if first = '!' then s.readPart fun c => (writtenTag c).map fun (t, c) => (.tag t, c)
    else if first = '|' && !s.inFlow then s.readBlock false
    else if first = '>' && !s.inFlow then s.readBlock true
    else if first = '\x27' || first = '\x22' then
      s.readPart fun c => (quotedText first c).map fun (t, c) => (.scalar t false, c)
    else if startsPlain s.inFlow first rest then s.readPlain
    else throw .malformed

/-- Reads on until the next token is known. A token that may turn out to be a key is not known before it is clear
whether it is one. -/
def ahead : Nat → Layout → Except Error Layout
  | 0, s => .ok s
  | fuel + 1, s => do
    if s.isDone then return s
    if s.queue.isEmpty then ahead fuel (← s.fetch)
    else
      let s ← s.dropStale
      if s.keys.any fun entry => entry.2.number = s.taken then ahead fuel (← s.fetch) else return s

/-- Takes the next token away. -/
def take (s : Layout) : Layout := { s with queue := s.queue.tail, taken := s.taken + 1 }

/-- The beginning of a text, behind a byte order mark. -/
def start (text : Text) : Layout :=
  let cursor : Cursor := { rest := text }
  { cursor := if text.head? = some '\uFEFF' then cursor.next else cursor }

end Layout

end BraceLink.Yaml
