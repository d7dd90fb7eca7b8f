import BraceLink.Yaml.Scalar
import BraceLink.Text.Utf8

/-!
# Tokens of a document

What a document consists of: marks, scalars, and the properties of nodes. A tag is a handle, which stands
for the beginning of the tag, and the rest of the tag.
-/

namespace BraceLink.Yaml

structure WrittenTag where
  handle : Option Text
  rest : Text
  deriving DecidableEq, Repr

/-- A line before a document that tells how to read it. -/
inductive Directive where
  | version (major : Nat)
  | handle (handle start : Text)
  | other
  deriving DecidableEq, Repr

inductive Token where
  | directive (d : Directive)
  | documentStart
  | documentEnd
  | blockSequence
  | blockMapping
  | blockEnd
  | openSequence
  | closeSequence
  | openMapping
  | closeMapping
  /-- The dash before an item of a block sequence. -/
  | item
  /-- The comma between the items of a sequence or mapping in brackets. -/
  | comma
  | key
  | value
  | again (anchor : Text)
  | anchor (name : Text)
  | tag (written : WrittenTag)
  | scalar (content : Text) (isPlain : Bool)
  deriving DecidableEq, Repr

def isNameChar (c : Char) : Bool := c.isAlphanum || c = '-' || c = '_'

def isTagChar (c : Char) : Bool := c.isAlphanum || c ∈ "-;/?:@&=+$,_.!~*'()[]%".toList

/-- Whether a space, a line end or the end follows. -/
def endsTag (text : Text) : Bool := text.head? = some ' ' || endsLine text

def anchorName (c : Cursor) : Except Error (Text × Cursor) :=
  let (name, after) := c.next.readWhile isNameChar
  let ends := endsWord after.rest || after.rest.head?.any (· ∈ "?:,]\x7D%@\x60".toList)
  if name.isEmpty || !ends then .error .malformed else .ok (name, after)

/-- The bytes that are written by their codes at the beginning of a text. -/
def codedBytes : Text → Option (List Nat)
  | '%' :: a :: b :: rest =>
    if Text.isHexDigit a && Text.isHexDigit b then
      (codedBytes rest).map fun bytes => Text.hexNumber [a, b] :: bytes
    else none
  | '%' :: _ => none
  | _ => some []

def tagChars : Nat → Cursor → Except Error (Text × Cursor)
  | 0, _ => .error .malformed
  | fuel + 1, c =>
    match c.rest with
    | [] => .ok ([], c)
    | first :: _ =>
      if !isTagChar first then .ok ([], c)
      else if first = '%' then
        match codedBytes c.rest with
        | none => .error .malformed
        | some bytes =>
          match Utf8.decode? bytes with
          | none => .error .malformed
          | some part => do
            let (more, after) ← tagChars fuel (c.advance (3 * bytes.length))
            return (part ++ more, after)
      else do
        let (more, after) ← tagChars fuel c.next
        return (first :: more, after)

/-- The characters of a tag, at least one. -/
def tagText (c : Cursor) : Except Error (Text × Cursor) := do
  let (text, after) ← tagChars (c.rest.length + 1) c
  if after.index = c.index then throw .malformed
  return (text, after)

/-- The handle of a tag: a name between two marks, or one mark or two. -/
def tagHandle (c : Cursor) : Except Error (Text × Cursor) :=
  if c.rest.head? ≠ some '!' then .error .malformed
  else
    let (name, after) := c.next.readWhile isNameChar
    match after.rest with
    | '!' :: _ => .ok ('!' :: name ++ ['!'], after.next)
    | ' ' :: _ => if name.isEmpty then .ok (['!'], after) else .error .malformed
    | _ => .error .malformed

def writtenTag (c : Cursor) : Except Error (WrittenTag × Cursor) := do
  let (tag, after) ←
    match c.rest.drop 1 with
    | '<' :: _ => do
      let (text, after) ← tagText (c.advance 2)
      if after.rest.head? ≠ some '>' then throw .malformed
      pure (⟨none, text⟩, after.next)
    | rest =>
      if endsWord rest then pure (⟨none, ['!']⟩, c.next)
      else do
        let word := rest.takeWhile fun d => d ≠ ' ' && !isBreak d
        let (handle, after) ← if '!' ∈ word then tagHandle c else pure (['!'], c.next)
        let (text, after) ← tagText after
        pure (⟨some handle, text⟩, after)
  if endsTag after.rest then return (tag, after) else throw .malformed

def versionNumber (c : Cursor) : Except Error (Nat × Cursor) :=
  let (digits, after) := c.readWhile Char.isDigit
  if digits.isEmpty then .error .malformed
  else if 4300 < digits.length then .error .badNumber
  else .ok (Text.decimalNumber digits, after)

def versionDirective (c : Cursor) : Except Error (Directive × Cursor) := do
  let (major, after) ← versionNumber c.skipSpaces
  if after.rest.head? ≠ some '.' then throw .malformed
  let (_, after) ← versionNumber after.next
  if endsTag after.rest then return (.version major, after) else throw .malformed

/-- The handle of tags and what it stands for, behind the name of their directive. -/
def handleDirective (c : Cursor) : Except Error (Directive × Cursor) := do
  let (handle, after) ← tagHandle c.skipSpaces
  if after.rest.head? ≠ some ' ' then throw .malformed
  let (start, after) ← tagText after.skipSpaces
  if endsTag after.rest then return (.handle handle start, after) else throw .malformed

def directive (c : Cursor) : Except Error (Directive × Cursor) := do
  let (name, after) := c.next.readWhile isNameChar
  if name.isEmpty || !endsTag after.rest then throw .malformed
  let (found, after) ←
    if name = "YAML".toList then versionDirective after
    else if name = "TAG".toList then handleDirective after
    else .ok (.other, after.skipWhile fun d => !isBreak d)
  return (found, ← restOfLine after)

end BraceLink.Yaml
