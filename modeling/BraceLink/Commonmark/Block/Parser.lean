import BraceLink.Commonmark.Block.Mark

/-!
# Reading blocks

Blocks are read from a line on. Each reader gives the block and the line behind it. Containers change
how their lines begin and read the content with the same readers. The fuel bounds how far reading goes:
behind a line, or into a container of the same line, of which only a few can be open.
-/

namespace BraceLink.Commonmark

/-- What is known while blocks are read. -/
structure Blocks where
  blocks : List Block := []
  /-- The next line. -/
  line : Nat
  /-- Whether no empty line stands before the last block. -/
  tight : Bool := true
  definitions : Table Definition := []

def Blocks.add (state : Blocks) (block : Block) (line : Nat) : Blocks :=
  { state with blocks := state.blocks ++ [block], line }

/-- How blocks are read. -/
structure BlockGrammar where
  /-- Whether there are other blocks than paragraphs. -/
  full : Bool := true
  normalize : Text → Text
  maxNesting : Nat := 20

namespace Scope

/-- The line behind the lines that go on with a paragraph or a definition, from the given line on. -/
def continuation (scope : Scope) (what : Interrupted) (n : Nat) : Nat :=
  if n < scope.lineMax ∧ !scope.isEmpty n then
    if scope.isCode n || (scope.line n).indent < 0 then scope.continuation what (n + 1)
    else if scope.interrupts what n then n
    else scope.continuation what (n + 1)
  else n
termination_by scope.lineMax - n

/-- The line behind the lines with content, from the given line on. -/
def contentEnd (scope : Scope) (n : Nat) : Nat :=
  if n < scope.lineMax ∧ !scope.isEmpty n then scope.contentEnd (n + 1) else n
termination_by scope.lineMax - n

/-- The line behind a block of code, where `last` is the line behind its last line with content. -/
def codeEnd (scope : Scope) (stop last n : Nat) : Nat :=
  if n < stop then
    if scope.isEmpty n then scope.codeEnd stop last (n + 1)
    else if scope.isCode n then scope.codeEnd stop (n + 1) (n + 1)
    else last
  else last
termination_by stop - n

/-- The line behind the content of a fence, and whether it closes the fence. -/
def fenceEnd (scope : Scope) (fence : Fence) (stop n : Nat) : Nat × Bool :=
  if n < stop then
    if !scope.isEmpty n && scope.isOutdented n then (n, false)
    else if scope.closesFence fence n then (n, true)
    else scope.fenceEnd fence stop (n + 1)
  else (n, false)
termination_by stop - n

def htmlEnd (scope : Scope) (block : HtmlBlock) (stop n : Nat) : Nat :=
  if n < stop then
    if scope.isOutdented n then n
    else
      let content := (scope.line n).content
      if block.endsWith content then if content.isEmpty then n else n + 1
      else scope.htmlEnd block stop (n + 1)
  else n
termination_by stop - n

/-- The level of the heading that a line under it makes. -/
def underline? (scope : Scope) (n : Nat) : Option Nat :=
  let content := (scope.line n).content
  let level (mark : Char) : Option Nat :=
    if (content.dropWhile (· = mark)).all isGap then some (if mark = '=' then 1 else 2) else none
  if scope.isOutdented n then none
  else
    match content.head? with
    | some '=' => level '='
    | some '-' => level '-'
    | _ => none

/-- The line under the text of a heading, and the level of the heading. -/
def underlined? (scope : Scope) (stop n : Nat) : Option (Nat × Nat) :=
  if n < stop ∧ !scope.isEmpty n then
    if scope.isCode n then scope.underlined? stop (n + 1)
    else
      match scope.underline? n with
      | some level => some (n, level)
      | none =>
        if (scope.line n).indent < 0 then scope.underlined? stop (n + 1)
        else if scope.interrupts .paragraph n then none
        else scope.underlined? stop (n + 1)
  else none
termination_by stop - n

def prose (scope : Scope) (first last : Nat) : Text :=
  Text.strip (scope.cut first last scope.indent)

/-! ## Definitions -/

/-- The length of a label before its closing bracket. -/
def labelLength? : Text → Option Nat
  | [] | '[' :: _ => none
  | ']' :: _ => some 0
  | '\\' :: _ :: rest => (labelLength? rest).map (· + 2)
  | _ :: rest => (labelLength? rest).map (· + 1)

/-- The title of a definition after its destination, and the length up to the end of the title. -/
def definitionTitle? (text : Text) : Option (Text × Nat) :=
  let gap := countWhile isGapOrEnd text
  if gap = 0 then none
  else
    match title? (text.drop gap) with
    | some (title, length) =>
      let rest := (text.drop (gap + length)).dropWhile isGap
      if title.isEmpty || rest.isEmpty || rest.head? = some '\n' then some (title, gap + length)
      else none
    | none => none

/-- The definition at the beginning of a text, with its label and its length. -/
def definition? (normalize : Text → Text) (text : Text) : Option (Text × Definition × Nat) :=
  match text with
  | '[' :: body =>
    (labelLength? body).bind fun labelLength =>
      match body.drop (labelLength + 1) with
      | ':' :: rest =>
        let gap := countWhile isGapOrEnd rest
        (destination? (rest.drop gap)).bind fun (written, length) =>
          let href := normalize written
          if !isAllowed href then none
          else
            let after := rest.drop (gap + length)
            let (title, titleLength) := (definitionTitle? after).getD ([], 0)
            let tail := (after.drop titleLength).dropWhile isGap
            let label := normalLabel (body.take labelLength)
            if (!tail.isEmpty && tail.head? ≠ some '\n') || label.isEmpty then none
            else some (label, ⟨href, title⟩, labelLength + 3 + gap + length + titleLength)
      | _ => none
  | _ => none

/-- The definition that begins in the line, with its label and the line behind it. -/
def definitionAt? (scope : Scope) (normalize : Text → Text) (n : Nat) :
    Option (Text × Definition × Nat) :=
  if scope.isCode n || (scope.line n).content.head? ≠ some '[' then none
  else
    let last := scope.continuation .definition (n + 1)
    let text := (scope.range n last).flatMap Line.contentWithEnd
    (definition? normalize text).map fun (label, definition, length) =>
      (label, definition, n + 1 + (text.take length).count '\n')

/-! ## Containers -/

/-- The line without the mark of a quotation. -/
def unquoted (line : Line) : Line :=
  let rest := line.content.drop 1
  let column := (line.indent + 1).toNat
  let (spaced, adjusted, used, start) :=
    match rest with
    | ' ' :: _ => (true, false, 1, column + 1)
    | '\t' :: _ =>
      if (line.taken + column) % 4 = 3 then (true, false, 1, column + 1) else (true, true, 0, column)
    | _ => (false, false, 0, column)
  let text := rest.drop used
  let gap := text.takeWhile isGap
  let reached := Line.columnAfter (line.taken + if adjusted then 1 else 0) start gap
  { line with
    text
    shift := gap.length
    indent := (reached : Int) - start
    taken := column + if spaced then 1 else 0 }

/-- The scope of a quotation and the line behind it, from the given line on; `empty` tells whether
the line before had no content. -/
def quoteEnd (scope : Scope) (stop n : Nat) (empty : Bool) : Scope × Nat :=
  if n < stop then
    if scope.isEmpty n then (scope, n)
    else if scope.isQuoted n && !scope.isOutdented n then
      let line := unquoted (scope.line n)
      (quoteEnd (scope.setLine n line) stop (n + 1) line.isEmpty)
    else if empty then (scope, n)
    else if scope.interrupts .quote n then
      let line := scope.line n
      let line := { line with indent := line.indent - scope.indent }
      ({ scope.setLine n line with lineMax := n }, n)
    else
      let line := { scope.line n with indent := -1 }
      quoteEnd (scope.setLine n line) stop (n + 1) false
  else (scope, n)
termination_by stop - n

/-- The line behind the mark of an item, and the column where the content of the item begins. -/
def itemLine (line : Line) (mark : ItemMark) : Line × Nat :=
  let start := line.indent.toNat + mark.length
  let rest := line.content.drop mark.length
  let gap := rest.takeWhile isGap
  let reached := Line.columnAfter line.taken start gap
  let distance := if gap.length = rest.length then 1 else reached - start
  ({ line with shift := line.shift + mark.length + gap.length, indent := reached },
    start + if 4 < distance then 1 else distance)

end Scope

/-! ## Blocks -/

namespace BlockGrammar

/-- The block without blocks inside it that begins in the line, with the line behind it. -/
def leaf? (scope : Scope) (n stop : Nat) : Option (Block × Nat) :=
  if scope.isCode n then
    let last := scope.codeEnd stop (n + 1) (n + 1)
    some (.code (scope.cut n last (scope.indent + 4) ++ ['\n']), last)
  else
    match scope.fence? n with
    | some fence =>
      let (last, closed) := scope.fenceEnd fence stop (n + 1)
      let content := scope.cutWithEnd (n + 1) last (scope.line n).indent.toNat
      some (.fence fence.info content, if closed then last + 1 else last)
    | none => none

/-- The block that begins in the line if it is no container. -/
def laterLeaf (scope : Scope) (n stop : Nat) : Block × Nat :=
  match scope.htmlBlock? n with
  | some block =>
    let last :=
      if block.endsWith (scope.line n).content then n + 1 else scope.htmlEnd block stop (n + 1)
    (.html (scope.cutWithEnd n last scope.indent), last)
  | none =>
    match scope.heading? n with
    | some (level, content) => (.heading level content, n + 1)
    | none =>
      match (if scope.isCode n then none else scope.underlined? stop (n + 1)) with
      | some (last, level) => (.heading level (scope.prose n last), last + 1)
      | none =>
        let last := scope.continuation .paragraph (n + 1)
        (.paragraph (scope.prose n last), last)

mutual

/-- Reads the blocks from a line on, before the line `stop`. -/
def read (g : BlockGrammar) (scope : Scope) (stop : Nat) (gaps : Bool) :
    Nat → Blocks → Blocks
  | 0, state => { state with line := stop }
  | fuel + 1, state =>
    if stop ≤ state.line then state
    else
      let n := scope.skipEmpty state.line
      let state := { state with line := n }
      if stop ≤ n || scope.isOutdented n then state
      else if g.maxNesting ≤ scope.level then { state with line := stop }
      else
        let after := readBlock g scope stop fuel state
        let after := { after with tight := !gaps }
        let gapInside := decide (after.line - 1 < stop) && scope.isEmpty (after.line - 1)
        let gapBehind := decide (after.line < stop) && scope.isEmpty after.line
        let next := if gapBehind then { after with line := after.line + 1 } else after
        read g scope stop (gaps || gapInside || gapBehind) fuel next

/-- Reads the block that begins in the next line. -/
def readBlock (g : BlockGrammar) (scope : Scope) (stop : Nat) : Nat → Blocks → Blocks
  | 0, state => { state with line := stop }
  | fuel + 1, state =>
    let n := state.line
    if !g.full then
      let last := scope.contentEnd (n + 1)
      state.add (.paragraph (scope.prose n last)) last
    else
      match leaf? scope n stop with
      | some (block, last) => state.add block last
      | none =>
        if scope.isQuoted n then
          let line := Scope.unquoted (scope.line n)
          let (inner, last) := (scope.setLine n line).quoteEnd stop (n + 1) line.isEmpty
          let inner := { inner with indent := 0, level := scope.level + 1 }
          let content := read g inner last false fuel
            { line := n, definitions := state.definitions }
          { state with definitions := content.definitions }.add (.quote content.blocks) content.line
        else if scope.isBreak n then state.add .rule (n + 1)
        else
          match scope.listMark? n with
          | some mark =>
            let (items, tight, after) := readItems g scope stop mark false true fuel state
            { after with blocks := state.blocks }.add (.list mark.number tight items) after.line
          | none =>
            match scope.definitionAt? g.normalize n with
            | some (label, definition, last) =>
              let known := state.definitions
              let definitions :=
                if known.hasName label then known else known ++ [(label, definition)]
              { state with line := last, definitions }
            | none =>
              let (block, last) := laterLeaf scope n stop
              state.add block last

/-- Reads the items of a list, of which the next one has the given mark. A list is tight if none of its
items holds blocks with an empty line between them, and none but the last one ends with one. -/
def readItems (g : BlockGrammar) (scope : Scope) (stop : Nat) (mark : ItemMark)
    (emptyEnd tight : Bool) : Nat → Blocks → List (List Block) × Bool × Blocks
  | 0, state => ([], tight, { state with line := stop })
  | fuel + 1, state =>
    let n := state.line
    let (line, indent) := Scope.itemLine (scope.line n) mark
    let inner := { scope.setLine n line with
      indent := indent, listIndent := some scope.indent, level := scope.level + 2 }
    let content :=
      if line.isEmpty && inner.isEmpty (n + 1) then
        { line := min (n + 2) stop, definitions := state.definitions }
      else read g inner stop false fuel { line := n, definitions := state.definitions }
    let tight := tight && content.tight && !emptyEnd
    let next := content.line
    let after := { state with line := next, definitions := content.definitions }
    let emptyEnd := decide (1 < next - n) && inner.isEmpty (next - 1)
    let ends := stop ≤ next || scope.isOutdented next || scope.isCode next ||
      scope.interrupts .item next
    match (if ends then none else itemMark? (scope.line next).content) with
    | none => ([content.blocks], tight, after)
    | some following =>
      if following.symbol ≠ mark.symbol || following.number.isSome ≠ mark.number.isSome then
        ([content.blocks], tight, after)
      else
        let (items, tight, after) := readItems g scope stop following emptyEnd tight fuel after
        (content.blocks :: items, tight, after)

end

def parse (g : BlockGrammar) (source : Text) : Blocks :=
  let lines := Line.all (tidy source)
  let scope : Scope := { lines, lineMax := lines.size }
  read g scope lines.size false (4 * lines.size + 100) { line := 0 }

end BlockGrammar

end BraceLink.Commonmark
