import BraceLink.Classic.Element
import BraceLink.Text.Lowercase
import BraceLink.Text.WordChar

/-!
# Blocks

A document is divided at empty lines, and the pieces are added to a tree of elements one after another. Every
kind of block looks at the next piece, and the first kind that suits takes it or a part of it and gives the rest
back. Lists and quotations read their content in the same way.
-/

namespace BraceLink.Classic

/-- What a definition refers to: a target and perhaps a title. -/
structure Reference where
  link : Text
  title : Option Text
  deriving DecidableEq, Repr

/-- The definitions by their names, the last one first. -/
abbrev References := List (Text × Reference)

/-- A step of reading blocks. -/
abbrev BlockM := StateM References

inductive Mode where
  | list
  | looseList
  | detabbed
  | quote
  deriving DecidableEq, Repr

abbrev ReadBlocks := List Mode → Element → List Text → BlockM Element

/-- What a kind of block makes of the element and the pieces that are left. -/
abbrev Step := BlockM (Element × List Text)

/-! ## Texts -/

/-- The indentation of code and of the content of lists. -/
def tab : Text := List.replicate 4 ' '

def stripStart (text : Text) : Text := text.dropWhile Text.isBlank

def stripEnd (text : Text) : Text := Text.dropEndWhile Text.isBlank text

/-- Drops line ends at the beginning. -/
def withoutBreaks (text : Text) : Text := text.dropWhile (· = '\n')

/-- The pieces between empty lines. -/
def chunks : Text → List Text
  | [] => [[]]
  | '\n' :: '\n' :: rest => [] :: chunks rest
  | c :: rest =>
    match chunks rest with
    | [] => [[c]]
    | piece :: pieces => (c :: piece) :: pieces

/-- The lines that are indented, without the indentation, and the lines from the first other one on. -/
def splitIndented : List Text → List Text × List Text
  | [] => ([], [])
  | line :: rest =>
    match Text.dropPrefix? tab line with
    | some inner =>
      let (indented, other) := splitIndented rest
      (inner :: indented, other)
    | none =>
      if (Text.strip line).isEmpty then
        let (indented, other) := splitIndented rest
        ([] :: indented, other)
      else ([], line :: rest)

def unlines (lines : List Text) : Text := Text.join ['\n'] lines

/-- A text with the indentation taken off where a line has it. -/
def dedent (level : Nat) (text : Text) : Text :=
  let indentation := List.replicate (4 * level) ' '
  unlines <| (Text.splitOn '\n' text).map fun line =>
    (Text.dropPrefix? indentation line).getD line

def escapeCode (text : Text) : Text :=
  text.flatMap fun c =>
    if c = '&' then "&amp;".toList
    else if c = '<' then "&lt;".toList
    else if c = '>' then "&gt;".toList
    else [c]

/-- The text behind at most three spaces, if no further space follows. -/
def behindMargin? (line : Text) : Option Text :=
  let rest := line.dropWhile (· = ' ')
  if line.length - rest.length ≤ 3 then some rest else none

/-- The lines before the first one that satisfies the condition, this line, and the lines after it. -/
def splitAtLine {α : Type} (find : Text → Option α) : List Text → Option (List Text × α × List Text)
  | [] => none
  | line :: rest =>
    match find line with
    | some a => some ([], a, rest)
    | none => (splitAtLine find rest).map fun (before, a, after) => (line :: before, a, after)

/-! ## Code and what it is told by -/

/-- Adds text to the block of code at the end of an element. -/
def extendCode (text : Text) (parent : Element) : Element :=
  parent.mapLast fun pre =>
    match pre.children with
    | (code, tail) :: rest =>
      { pre with children := ({ code with text := .ofFixed (code.text.text ++ text) }, tail) :: rest }
    | [] => pre

def endsWithCode (parent : Element) : Bool := parent.last?.any fun child => child.1.isCode

/-- An empty piece, or an empty line at the beginning of a piece. -/
def emptyBlock (parent : Element) (block : Text) (rest : List Text) : Element × List Text :=
  let more := block.drop 1
  let filler : Text := if block.isEmpty then "\n\n" else ['\n']
  (if endsWithCode parent then extendCode filler parent else parent,
    if more.isEmpty then rest else more :: rest)

def codeBlock (parent : Element) (block : Text) (rest : List Text) : Element × List Text :=
  let (indented, other) := splitIndented (Text.splitOn '\n' block)
  let code := escapeCode (stripEnd (unlines indented)) ++ ['\n']
  let parent :=
    if endsWithCode parent then extendCode ('\n' :: code) parent
    else
      parent.push
        { tag := "pre", children := [({ tag := "code", text := .ofFixed code }, .none)] }
  (parent, if (unlines other).isEmpty then rest else unlines other :: rest)

/-! ## Headings and rules -/

def headingElement (level : Nat) (title : Text) : Element :=
  { tag := 'h' :: Text.ofNat level, text := .plain (Text.strip title) }

/-- The title before the number signs that close a heading; a backslash protects the character behind it. -/
def headingTitle? : Text → Option Text
  | [] => some []
  | '\\' :: c :: rest => (headingTitle? rest).map fun title => '\\' :: c :: title
  | '\\' :: [] => none
  | c :: rest =>
    if (c :: rest).all (· = '#') then some []
    else (headingTitle? rest).map (c :: ·)

/-- The level and the title of a heading that begins with number signs. -/
def heading? (line : Text) : Option (Nat × Text) :=
  let level := ((line.takeWhile (· = '#')).take 6).length
  if level = 0 then none else (headingTitle? (line.drop level)).map (level, ·)

/-- The level of a heading that the line below it makes. -/
def underline? (line : Text) : Option Nat :=
  match Text.dropEndWhile (· = ' ') line with
  | c :: rest =>
    if (c :: rest).all fun d => d = '=' || d = '-' then some (if c = '=' then 1 else 2) else none
  | [] => none

/-- Whether at least so many marks follow, with no more than two spaces between them. -/
def isRuleRest (mark : Char) (needed : Nat) (gap : Nat) : Text → Bool
  | [] => needed = 0
  | c :: rest =>
    if c = mark then gap ≤ 2 && isRuleRest mark (needed - 1) 0 rest
    else c = ' ' && isRuleRest mark needed (gap + 1) rest

def isRule (line : Text) : Bool :=
  match behindMargin? line with
  | some (c :: rest) => (c = '-' || c = '_' || c = '*') && isRuleRest c 2 0 rest
  | _ => false

/-! ## Items -/

/-- The text behind the mark of an item, if one begins the text; there is at least one space. -/
def behindItemMark? (ordered bulleted : Bool) (text : Text) : Option Text :=
  let spaced (rest : Text) : Option Text :=
    match rest with
    | ' ' :: more => some (more.dropWhile (· = ' '))
    | _ => none
  let digits := text.takeWhile Text.isDigit
  match text.drop digits.length with
  | c :: rest =>
    if digits.isEmpty then
      if bulleted && (c = '*' || c = '+' || c = '-') then spaced rest else none
    else if ordered && c = '.' then spaced rest
    else none
  | [] => none

def item? (ordered bulleted : Bool) (line : Text) : Option Text :=
  (behindMargin? line).bind (behindItemMark? ordered bulleted)

/-- Whether the line is an item of a list inside of a list. -/
def isInnerItem (line : Text) : Bool :=
  let rest := line.dropWhile (· = ' ')
  let width := line.length - rest.length
  4 ≤ width && width ≤ 7 && (behindItemMark? true true rest).isSome

/-- Adds a line to the last item. -/
def extendItem (line : Text) (items : List Text) : List Text :=
  match items.getLast? with
  | some last => items.dropLast ++ [last ++ '\n' :: line]
  | none => [line]

def itemsOf (block : Text) : List Text :=
  (Text.splitOn '\n' block).foldl (fun items line =>
    match item? true true line with
    | some content => items ++ [content]
    | none =>
      if isInnerItem line && !(items.getLast?.any (Text.isPrefix tab)) then items ++ [line]
      else extendItem line items) []

/-- An item whose text is a paragraph of its own. -/
def withParagraph (item : Element) : Element :=
  if item.text.isEmpty then item
  else
    { item with
      text := .none
      children := ({ tag := "p", text := .plain item.text.text }, .none) :: item.children }

/-- An item where the text behind the last child is a paragraph of its own. -/
def withTailParagraph (item : Element) : Element :=
  match item.last? with
  | some (child, tail) =>
    if tail.isEmpty then item
    else
      ({ item with children := item.children.dropLast ++ [(child, Fragment.none)] }).push
        { tag := "p", text := .plain (stripStart tail.text) }
  | none => item

/-- Changes the last child in a step. -/
def mapLastM (f : Element → BlockM Element) (e : Element) : BlockM Element := do
  match e.last? with
  | some (child, tail) => return { e with children := e.children.dropLast ++ [(← f child, tail)] }
  | none => return e

def newItem (read : ReadBlocks) (modes : List Mode) (content : Text) : BlockM Element :=
  read modes { tag := "li" } [content]

/-- Adds items to a list; an indented one belongs to the item before it. -/
def addItems (read : ReadBlocks) (modes : List Mode) (list : Element) (items : List Text) :
    BlockM Element :=
  items.foldlM (fun list content => do
    if Text.isPrefix tab content then mapLastM (fun item => read modes item [content]) list
    else return list.push (← newItem read modes content)) list

/-- A piece that begins with an item. -/
def listBlock (read : ReadBlocks) (modes : List Mode) (tag : Text) (parent : Element) (block : Text)
    (rest : List Text) : Step := do
  let items := itemsOf block
  let inner := .list :: modes
  if parent.last?.any fun child => child.1.isList then
    let parent ← mapLastM (fun list => do
      let list := list.mapLast (withTailParagraph ∘ withParagraph)
      let list := list.push (← newItem read (.looseList :: modes) (items.headD []))
      addItems read inner list (items.drop 1)) parent
    return (parent, rest)
  else if parent.isList then return (← addItems read inner parent items, rest)
  else return (parent.push (← addItems read inner { tag } items), rest)

/-- How often to go to the last child to find the list that a piece with so much indentation belongs to,
and the level of that list. -/
def findLevel : (fuel target level : Nat) → Element → Nat × Nat
  | 0, _, level, _ => (0, level)
  | fuel + 1, target, level, e =>
    if level < target then
      match e.last? with
      | some (child, _) =>
        if child.isList || child.isItem then
          let (steps, level) := findLevel fuel target (if child.isList then level + 1 else level) child
          (steps + 1, level)
        else (0, level)
      | none => (0, level)
    else (0, level)

/-- Changes the element that is reached by going to the last child so often. -/
def mapDeepM (f : Element → BlockM Element) : Nat → Element → BlockM Element
  | 0, e => f e
  | steps + 1, e => mapLastM (mapDeepM f steps) e

def indentInto (read : ReadBlocks) (modes : List Mode) (block : Text) (target : Element) :
    BlockM Element := do
  if target.isItem then read modes target [block]
  else if target.last?.any fun child => child.1.isItem then
    mapLastM (fun item => read modes (withParagraph item) (chunks block)) target
  else return target.push (← newItem read modes block)

/-- Whether an indented piece belongs to a list. -/
def belongsToList (modes : List Mode) (parent : Element) : Bool :=
  modes.head? ≠ some .detabbed &&
    (parent.isItem || parent.last?.any fun child => child.1.isList)

/-- An indented piece that belongs to a list. -/
def indentBlock (read : ReadBlocks) (modes : List Mode) (parent : Element) (block : Text)
    (rest : List Text) : Step := do
  let target := (block.takeWhile (· = ' ')).length / 4
  let start := if modes.head? = some .list then 1 else 0
  let (steps, level) := findLevel (2 * target + 2) target start parent
  let block := dedent level block
  let inner := .detabbed :: modes
  if parent.isItem then
    if parent.last?.any fun child => child.1.isList then
      return (← mapLastM (fun list => read inner list [block]) parent, rest)
    else return (← read inner parent [block], rest)
  else return (← mapDeepM (indentInto read inner block) steps parent, rest)

/-! ## Quotations -/

/-- A line of a quotation without its mark. -/
def quoted? (line : Text) : Option Text :=
  match behindMargin? line with
  | some ('>' :: ' ' :: rest) | some ('>' :: rest) => some rest
  | _ => none

/-- A line inside of a quotation. -/
def unquote (line : Text) : Text :=
  if Text.strip line = ['>'] then [] else (quoted? line).getD line

def quoteBlock (read : ReadBlocks) (modes : List Mode) (parent : Element) (before : List Text)
    (lines : List Text) (rest : List Text) : Step := do
  let parent ← read modes parent [unlines before]
  let content := (if before.isEmpty then lines else [] :: lines).map unquote
  let pieces := chunks (unlines content)
  let inner := .quote :: modes
  if parent.last?.any fun child => child.1.tag = "blockquote".toList then
    return (← mapLastM (fun quote => read inner quote pieces) parent, rest)
  else return (parent.push (← read inner { tag := "blockquote" } pieces), rest)

/-! ## Definitions -/

/-- The title of a definition and the text behind it; the title takes the rest of its line. -/
def definitionTitle? (text : Text) : Option (Text × Text) :=
  let line := text.takeWhile (· ≠ '\n')
  let rest := text.drop line.length
  let body := Text.dropEndWhile (· = ' ') line
  match body with
  | open_ :: inner =>
    let close := if open_ = '(' then ')' else open_
    if (open_ = '(' || open_ = '\x22' || open_ = '\x27') && inner.getLast? = some close then
      some (inner.dropLast, rest)
    else none
  | [] => none

/-- What follows the target of a definition: a title or nothing, and the text behind it. -/
def definitionEnd? (text : Text) : Option (Option Text × Text) :=
  let spaced := text.dropWhile (· = ' ')
  let onLine (text : Text) : Option (Option Text × Text) :=
    match definitionTitle? text with
    | some (title, rest) => some (some title, rest)
    | none => if text.isEmpty || text.head? = some '\n' then some (none, text) else none
  match spaced with
  | '\n' :: below =>
    match onLine (below.dropWhile (· = ' ')) with
    | some found => some found
    | none => onLine spaced
  | _ => onLine spaced

/-- The target of a definition with what follows it, where the target has at most so many characters. -/
def definitionFrom? (text : Text) : Nat → Option (Text × Option Text × Text)
  | 0 => none
  | n + 1 =>
    match definitionEnd? (text.drop (n + 1)) with
    | some (title, rest) => some (text.take (n + 1), title, rest)
    | none => definitionFrom? text n

def definition? (text : Text) : Option (Text × Reference × Text) :=
  match behindMargin? text with
  | some ('[' :: rest) =>
    let name := rest.takeWhile fun c => c ≠ '[' && c ≠ ']'
    match rest.drop name.length with
    | ']' :: ':' :: rest =>
      let rest := rest.dropWhile (· = ' ')
      let rest :=
        match rest with
        | '\n' :: below => below.dropWhile (· = ' ')
        | rest => rest
      let width := (rest.takeWhile fun c => !Text.isBlank c).length
      (definitionFrom? rest width).map fun (target, title, rest) =>
        let link := Text.dropEndWhile (· = '>') (target.dropWhile (· = '<'))
        let title := title.filter fun title => !title.isEmpty
        (Text.lower (Text.strip name), { link, title }, rest)
    | _ => none
  | _ => none

def findDefinition? : (atLine : Bool) → Text → Option (Text × (Text × Reference) × Text)
  | _, [] => none
  | atLine, c :: rest =>
    match if atLine then definition? (c :: rest) else none with
    | some (name, reference, after) => some ([], (name, reference), after)
    | none =>
      (findDefinition? (c = '\n') rest).map fun (before, found, after) => (c :: before, found, after)

def definitionBlock (before after : Text) (name : Text) (reference : Reference) (parent : Element)
    (rest : List Text) : Step := do
  modify fun references => (name, reference) :: references
  let rest := if (Text.strip after).isEmpty then rest else withoutBreaks after :: rest
  let rest :=
    if (Text.strip before).isEmpty then rest else Text.dropEndWhile (· = '\n') before :: rest
  return (parent, rest)

/-! ## Paragraphs -/

/-- A piece that is nothing else. -/
def paragraphBlock (modes : List Mode) (parent : Element) (block : Text) : Element :=
  if (Text.strip block).isEmpty then parent
  else if modes.head? = some .list then
    match parent.last? with
    | some (child, tail) =>
      { parent with
        children := parent.children.dropLast ++ [(child, .plain (tail.text ++ '\n' :: block))] }
    | none =>
      let text := parent.text.text
      let joint := if text.isEmpty then [] else ['\n']
      { parent with text := .plain (text ++ joint ++ stripStart block) }
  else parent.push { tag := "p", text := .plain (stripStart block) }

/-! ## Reading -/

/-- Adds the next piece, or a part of it, to an element. -/
def readBlock (read : ReadBlocks) (modes : List Mode) (parent : Element) (block : Text)
    (rest : List Text) : Step := do
  let lines := Text.splitOn '\n' block
  let back (lines : List Text) : List Text := if lines.isEmpty then rest else unlines lines :: rest
  if block.isEmpty || block.head? = some '\n' then return emptyBlock parent block rest
  if Text.isPrefix tab block then
    if belongsToList modes parent then return ← indentBlock read modes parent block rest
    else return codeBlock parent block rest
  if let some (before, (level, title), after) := splitAtLine heading? lines then
    let parent ← if before.isEmpty then pure parent else read modes parent [unlines before]
    let after := unlines after
    let after := if modes.head? = some .looseList then dedent 1 after else after
    return (parent.push (headingElement level title), if after.isEmpty then rest else after :: rest)
  if let first :: second :: more := lines then
    if let some level := underline? second then
      return (parent.push (headingElement level first), back more)
  if let some (before, _, after) := splitAtLine (fun line => if isRule line then some () else none) lines
  then
    let parent ←
      if before.isEmpty then pure parent
      else read modes parent [Text.dropEndWhile (· = '\n') (unlines before)]
    let after := withoutBreaks (unlines after)
    return (parent.push { tag := "hr" }, if after.isEmpty then rest else after :: rest)
  if (lines.head?.bind (item? true false)).isSome then
    return ← listBlock read modes "ol" parent block rest
  if (lines.head?.bind (item? false true)).isSome then
    return ← listBlock read modes "ul" parent block rest
  if let some (before, _, _) := splitAtLine quoted? lines then
    return ← quoteBlock read modes parent before (lines.drop before.length) rest
  if let some (before, (name, reference), after) := findDefinition? true block then
    return ← definitionBlock before after name reference parent rest
  return (paragraphBlock modes parent block, rest)

/-- Adds pieces to an element. -/
def readBlocks : Nat → ReadBlocks
  | 0, _, parent, _ => pure parent
  | _ + 1, _, parent, [] => pure parent
  | fuel + 1, modes, parent, block :: rest => do
    let (parent, rest) ← readBlock (readBlocks fuel) modes parent block rest
    readBlocks fuel modes parent rest

/-- The tree of a document, and its definitions. -/
def readTree (text : Text) : Element × References :=
  (readBlocks (4 * text.length + 8) [] { tag := "div" } (chunks text)).run []

end BraceLink.Classic
