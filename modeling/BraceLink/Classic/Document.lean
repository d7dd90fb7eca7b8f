import BraceLink.Classic.Fill
import BraceLink.Classic.RawHtml

/-!
# Classic documents

The HTML of a document: blocks of HTML are put aside, the rest is read as a tree, the text of the tree is read
for its parts, and the tree is written with a line for every block.
-/

namespace BraceLink.Classic

/-! ## The text of a document -/

/-- Drops spaces on lines that hold nothing else; `atLine` tells whether a line begins here. -/
def dropBlankLines : (atLine : Bool) → Text → Text
  | _, [] => []
  | atLine, c :: rest =>
    let spaces := (c :: rest).takeWhile (· = ' ')
    if atLine && c = ' ' && ((c :: rest).drop spaces.length).head? = some '\n' then
      dropBlankLines true rest
    else c :: dropBlankLines (c = '\n') rest

/-- The text of a document with one kind of line ends, without tabs and without characters that marks
are made of. -/
def normalizeText (source : Text) : Text :=
  let text := source.filter fun c => c ≠ markStart && c ≠ markEnd
  dropBlankLines false (expandTabs 0 (Text.unifyLines text ++ "\n\n"))

/-! ## The shape of the tree -/

mutual

/-- Begins a line for every block. -/
def layOut : Element → Element
  | ⟨tag, attrs, text, children⟩ =>
    if !Element.isBlockTag tag || tag = "code".toList || tag = "pre".toList then
      ⟨tag, attrs, text, children⟩
    else
      let begins := text.isBlank && children.head?.any fun child => child.1.isBlock
      ⟨tag, attrs, if begins then .plain ['\n'] else text, layOutAll children⟩

/-- Begins a line for every block and ends it behind the block. -/
def layOutAll : List (Element × Fragment) → List (Element × Fragment)
  | [] => []
  | (e, tail) :: rest =>
    (if e.isBlock then (layOut e, if tail.isBlank then .plain ['\n'] else tail) else (e, tail)) ::
      layOutAll rest

end

/-- An element with its code ending in one line end. -/
def trimCode (e : Element) : Element :=
  if e.tag = "pre".toList then
    match e.children with
    | (code, tail) :: rest =>
      if code.tag = "code".toList && code.children.isEmpty then
        let text := Fragment.ofFixed (stripEnd code.text.text ++ ['\n'])
        { e with children := ({ code with text }, tail) :: rest }
      else e
    | [] => e
  else e

/-- The text behind an element; behind a line break it begins a line. -/
def tailOf (e : Element) (tail : Fragment) : Fragment :=
  if e.tag = "br".toList then
    if tail.isBlank then .plain ['\n'] else .plain ('\n' :: tail.text)
  else tail

/-- A fragment with its characters back in place. -/
def unmark (fragment : Fragment) : Fragment := { fragment with text := unmarkChars fragment.text }

mutual

/-- The element with line ends behind line breaks, code trimmed, and characters back in place. -/
def finish : Element → Element
  | ⟨tag, attrs, text, children⟩ =>
    let text := if tag = "code".toList then text else unmark text
    trimCode ⟨tag, attrs.map fun attr => (attr.1, unmarkChars attr.2), text, finishAll children⟩

/-- Several elements with the text behind them. -/
def finishAll : List (Element × Fragment) → List (Element × Fragment)
  | [] => []
  | (e, tail) :: rest => (finish e, unmark (tailOf e tail)) :: finishAll rest

end

/-! ## HTML that has been put aside -/

def isBlockHtml (html : Text) : Bool :=
  match html with
  | '<' :: rest =>
    let rest := if rest.head? = some '/' then rest.drop 1 else rest
    let name := rest.takeWhile fun c => c ≠ ' ' && c ≠ '>'
    name.head?.any (fun c => c = '!' || c = '?' || c = '@' || c = '%') ||
      (!name.isEmpty && Element.isBlockTag name)
  | _ => false

/-- The number of a piece that stands in a paragraph of its own, and the text behind the paragraph. -/
def wrappedMark? (text : Text) : Option (Nat × Text) := do
  let inner ← Text.dropPrefix? "<p>" text
  let (n, after) ← mark? htmlStart inner
  return (n, ← Text.dropPrefix? "</p>" after)

/-- Puts the pieces of HTML back, themselves restored; a block has no paragraph around it. First so many
characters are passed over. -/
def restoreWith (html : List Text) (restore : Text → Text) : (skip : Nat) → Text → Text
  | _, [] => []
  | skip + 1, _ :: rest => restoreWith html restore skip rest
  | 0, c :: rest =>
    let put (piece after : Text) : Text :=
      restore piece ++ restoreWith html restore (rest.length - after.length) rest
    match wrappedMark? (c :: rest), mark? htmlStart (c :: rest) with
    | some (n, after), _ =>
      match html[n]? with
      | some piece => put (if isBlockHtml piece then piece else "<p>" ++ piece ++ "</p>") after
      | none => c :: restoreWith html restore 0 rest
    | none, some (n, after) =>
      match html[n]? with
      | some piece => put piece after
      | none => c :: restoreWith html restore 0 rest
    | none, none => c :: restoreWith html restore 0 rest

/-- Puts the pieces of HTML back, where pieces are inside of each other up to the depth. -/
def restoreHtml (html : List Text) : (depth : Nat) → Text → Text
  | 0, text => text
  | depth + 1, text => restoreWith html (restoreHtml html depth) 0 text

/-! ## Documents -/

def render (resolver : Resolver) (source : Text) : Except Fault Text := do
  if (Text.strip source).isEmpty then return []
  let (text, blocks) := extractHtml (normalizeText source)
  let (tree, references) := readTree text
  let setting : Setting := { resolver, references }
  let size := 2 * text.length + 100
  let (tree, s) ← (readChildren setting size tree).run { html := blocks }
  let tree := finish (layOut tree)
  let body := Text.strip (Element.escapeText tree.text.text ++ Element.renderAll tree.children)
  let html := restoreHtml s.html (s.html.length + 2) body
  return Text.strip (Text.replaceAll ampersandMark ['&'] html)

end BraceLink.Classic
