import BraceLink.Yaml.Cursor
import BraceLink.Yaml.Error

/-!
# Scalars

The three ways to write a text: plain, between quotes, and as a block of lines. A single line end inside a
plain or quoted text is read as a space, and a run of several line ends as all but the first.
-/

namespace BraceLink.Yaml

/-- What a line end and the line ends of empty lines behind it are read as. -/
def folded (first : Char) (more : Text) : Text :=
  if first ≠ '\n' then first :: more
  else if more.isEmpty then [' ']
  else more

/-! ## Plain -/

/-- Whether the character is a bracket or a comma. -/
def isFlowMark (c : Char) : Bool :=
  c = ',' || c = '[' || c = ']' || c = Text.openBrace || c = Text.closeBrace

/-- A part of a plain text without blanks. -/
def plainPart (inFlow : Bool) : Text → Text
  | [] => []
  | c :: rest =>
    let ends :=
      isBlank c || isBreak c || (inFlow && (isFlowMark c || c = '?')) ||
        (c = ':' && (endsWord rest || (inFlow && rest.head?.any isFlowMark)))
    if ends then [] else c :: plainPart inFlow rest

/-- The spaces and empty lines at the beginning of a text: the line ends among them, the number of
characters, and whether reading stopped because a document ends. -/
def emptyLines : Text → Text × Nat × Bool
  | [] => ([], 0, false)
  | c :: rest =>
    if c = ' ' then
      let (ends, count, stopped) := emptyLines rest
      (ends, count + 1, stopped)
    else if isBreak c then
      if startsMark rest then ([], 1, true)
      else
        let (ends, count, stopped) := emptyLines rest
        (readAs c :: ends, count + 1, stopped)
    else ([], 0, false)

/-- The space between two parts of a plain text, the cursor behind it, and whether it holds a line end. -/
def plainSpace (c : Cursor) : Text × Cursor × Bool :=
  let (blanks, after) := c.readWhile (· = ' ')
  match after.readBreak? with
  | none => (blanks, after, false)
  | some (first, after) =>
    if startsMark after.rest then ([], after, true)
    else
      let (ends, count, stopped) := emptyLines after.rest
      (if stopped then [] else folded first ends, after.advance count, true)

/-- A plain text; `space` stands before the next part. Tells as well whether the line has ended. -/
def plainFrom (inFlow : Bool) (indent : Int) :
    Nat → (space : Text) → (ended : Bool) → Cursor → (Text × Bool) × Cursor
  | 0, _, ended, c => (([], ended), c)
  | fuel + 1, space, ended, c =>
    let part := if c.rest.head? = some '#' then [] else plainPart inFlow c.rest
    if part.isEmpty then (([], ended), c)
    else
      let (next, after, ended) := plainSpace (c.advance part.length)
      if next.isEmpty || after.rest.head? = some '#' || (!inFlow && after.column < indent) then
        ((space ++ part, ended), after)
      else
        let ((more, ended), after) := plainFrom inFlow indent fuel next ended after
        ((space ++ part ++ more, ended), after)

/-- The plain text that begins at the cursor, and whether its line has ended. -/
def plain (inFlow : Bool) (indent : Int) (c : Cursor) : (Text × Bool) × Cursor :=
  plainFrom inFlow indent (c.rest.length + 1) [] false c

/-! ## Quoted -/

/-- The character that a letter behind a backslash stands for. -/
def escaped? (c : Char) : Option Char :=
  match c with
  | '0' => some '\x00'
  | 'a' => some '\x07'
  | 'b' => some '\x08'
  | 't' | '\t' => some '\t'
  | 'n' => some '\n'
  | 'v' => some '\x0B'
  | 'f' => some '\x0C'
  | 'r' => some '\r'
  | 'e' => some '\x1B'
  | ' ' | '\x22' | '\\' | '/' => some c
  | 'N' => some '\u0085'
  | '_' => some '\u00A0'
  | 'L' => some '\u2028'
  | 'P' => some '\u2029'
  | _ => none

/-- The number of digits behind a letter that announces a code. -/
def codeWidth? (c : Char) : Option Nat :=
  match c with
  | 'x' => some 2
  | 'u' => some 4
  | 'U' => some 8
  | _ => none

def code? (width : Nat) (text : Text) : Option Nat :=
  let digits := text.take width
  if digits.length = width && digits.all Text.isHexDigit then some (Text.hexNumber digits) else none

/-- The second half of a character beyond the first plane, behind the first half. -/
def secondHalf? : Text → Option Nat
  | '\\' :: 'u' :: rest => (code? 4 rest).filter fun code => 0xDC00 ≤ code && code < 0xE000
  | _ => none

/-- The character whose code stands at the cursor. A text cannot hold halves of characters beyond the first plane. Where
a document writes them, two are read as the character and a single one as a mark for it, and the cursor keeps that there
were halves: what is proved about files is about those that write none. -/
def codedChar (width : Nat) (c : Cursor) : Except Error (Char × Cursor) :=
  match code? width c.rest with
  | none => .error .malformed
  | some code =>
    let after := c.advance width
    if 0x80000000 ≤ code then .error .hugeCode
    else if 0x110000 ≤ code then .error .badNumber
    else if code.isValidChar then .ok (Char.ofNat code, after)
    else
      let after := { after with halves := true }
      match if code < 0xDC00 then secondHalf? after.rest else none with
      | some low =>
        .ok (Char.ofNat (0x10000 + (code - 0xD800) * 0x400 + (low - 0xDC00)), after.advance 6)
      | none => .ok ('\uFFFD', after)

/-- The line ends of empty lines inside of quotes. -/
def quotedLines : Nat → Cursor → Except Error (Text × Cursor)
  | 0, _ => .error .malformed
  | fuel + 1, c =>
    if startsMark c.rest then .error .malformed
    else
      let c := c.skipWhile isBlank
      match c.readBreak? with
      | none => .ok ([], c)
      | some (first, after) => do
        let (more, after) ← quotedLines fuel after
        return (first :: more, after)

/-- Blanks or a line end inside of quotes. -/
def quotedSpace (c : Cursor) : Except Error (Text × Cursor) :=
  let (blanks, after) := c.readWhile isBlank
  match after.readBreak? with
  | none => if after.rest.isEmpty then .error .malformed else .ok (blanks, after)
  | some (first, after) => do
    let (more, after) ← quotedLines (after.rest.length + 1) after
    return (folded first more, after)

/-- What a backslash inside of double quotes stands for. -/
def escape (c : Cursor) : Except Error (Text × Cursor) :=
  match c.rest with
  | [] => .error .malformed
  | first :: _ =>
    match escaped? first, codeWidth? first with
    | some d, _ => .ok ([d], c.next)
    | none, some width => (codedChar width c.next).map fun (d, after) => ([d], after)
    | none, none =>
      match c.readBreak? with
      | some (_, after) => quotedLines (after.rest.length + 1) after
      | none => .error .malformed

def quotedFrom (quote : Char) : Nat → Cursor → Except Error (Text × Cursor)
  | 0, _ => .error .malformed
  | fuel + 1, c =>
    match c.rest with
    | [] => .error .malformed
    | first :: rest => do
      if first = quote then
        if quote = '\x27' && rest.head? = some quote then
          let (more, after) ← quotedFrom quote fuel (c.advance 2)
          return (quote :: more, after)
        else return ([], c.next)
      else
        let (part, after) ←
          if isBlank first || isBreak first then quotedSpace c
          else if quote = '\x22' && first = '\\' then escape c.next
          else .ok ([first], c.next)
        let (more, after) ← quotedFrom quote fuel after
        return (part ++ more, after)

/-- The text between quotes that begins at the cursor. -/
def quotedText (quote : Char) (c : Cursor) : Except Error (Text × Cursor) :=
  quotedFrom quote (c.rest.length + 1) c.next

/-! ## Blocks -/

/-- What happens to the line ends at the end of a block. -/
inductive Chomping where
  | strip
  | clip
  | keep
  deriving DecidableEq, Repr

/-- The sign that tells how line ends are treated. -/
def Chomping.ofSign? : Char → Option Chomping
  | '+' => some .keep
  | '-' => some .strip
  | _ => none

/-- The remarks at the beginning of a block: the treatment of line ends and the indentation. -/
def blockRemarks (c : Cursor) : Except Error ((Chomping × Option Nat) × Cursor) := do
  let digit? (c : Cursor) : Option Nat :=
    (c.rest.head?.filter Char.isDigit).map fun d => d.toNat - '0'.toNat
  let sign? (c : Cursor) : Option Chomping := c.rest.head?.bind Chomping.ofSign?
  let (chomping, increment, after) :=
    match sign? c with
    | some chomping =>
      match digit? c.next with
      | some digit => (chomping, some digit, c.advance 2)
      | none => (chomping, none, c.next)
    | none =>
      match digit? c with
      | some digit =>
        match sign? c.next with
        | some chomping => (chomping, some digit, c.advance 2)
        | none => (.clip, some digit, c.next)
      | none => (.clip, none, c)
  if increment = some 0 then throw .malformed
  if after.rest.head? ≠ some ' ' && !endsLine after.rest then throw .malformed
  return ((chomping, increment), after)

/-- The rest of a line that holds nothing but a comment. -/
def restOfLine (c : Cursor) : Except Error Cursor :=
  let c := c.skipSpaces.skipComment
  if endsLine c.rest then .ok c.skipBreak else .error .malformed

/-- The line ends before the first line of a block, and the largest indentation among these lines. -/
def blockStart : Nat → Nat → Cursor → (Text × Nat) × Cursor
  | 0, widest, c => (([], widest), c)
  | fuel + 1, widest, c =>
    if c.rest.head? = some ' ' then blockStart fuel (max widest (c.column + 1)) c.next
    else
      match c.readBreak? with
      | some (first, after) =>
        let ((more, widest), after) := blockStart fuel widest after
        ((first :: more, widest), after)
      | none => (([], widest), c)

/-- The line ends of empty lines of a block; stops at the indentation. -/
def blockBreaks (indent : Nat) : Nat → Cursor → Text × Cursor
  | 0, c => ([], c)
  | fuel + 1, c =>
    if c.column < indent && c.rest.head? = some ' ' then blockBreaks indent fuel c.next
    else
      match c.readBreak? with
      | some (first, after) =>
        let (more, after) := blockBreaks indent fuel after
        (first :: more, after)
      | none => ([], c)

/-- The lines of a block from a line at the indentation on; `breaks` are the line ends before it. -/
def blockLines (fold : Bool) (chomping : Chomping) (indent : Nat) :
    Nat → (breaks : Text) → Cursor → Text × Cursor
  | 0, _, c => ([], c)
  | fuel + 1, breaks, c =>
    let (line, after) := c.readWhile fun d => !isBreak d
    let (ending, after) :=
      match after.readBreak? with
      | some (first, after) => ([first], after)
      | none => ([], after)
    let (next, after) := blockBreaks indent (after.rest.length + 1) after
    let starts (t : Text) : Bool := (t.head?.map isBlank).getD false
    if after.column = indent && !after.rest.isEmpty then
      let joint :=
        if fold && ending = ['\n'] && !starts line && !starts after.rest then
          if next.isEmpty then [' '] else []
        else ending
      let (more, after) := blockLines fold chomping indent fuel next after
      (breaks ++ line ++ joint ++ more, after)
    else
      let close :=
        match chomping with
        | .strip => []
        | .clip => ending
        | .keep => ending ++ next
      (breaks ++ line ++ close, after)

/-- The block that begins at the cursor; `indent` is the indentation of what it belongs to. -/
def block (fold : Bool) (indent : Int) (c : Cursor) : Except Error (Text × Cursor) := do
  let ((chomping, increment), c) ← blockRemarks c.next
  let c ← restOfLine c
  let least := (max (indent + 1) 1).toNat
  let fuel := c.rest.length + 1
  let (breaks, indent, c) :=
    match increment with
    | some digit =>
      let indent := least + digit - 1
      let (breaks, c) := blockBreaks indent fuel c
      (breaks, indent, c)
    | none =>
      let ((breaks, widest), c) := blockStart fuel 0 c
      (breaks, max least widest, c)
  if c.column = indent && !c.rest.isEmpty then return blockLines fold chomping indent fuel breaks c
  else return (if chomping = .keep then breaks else [], c)

end BraceLink.Yaml
