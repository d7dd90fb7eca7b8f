import BraceLink.Commonmark.Block.Basic
import BraceLink.Commonmark.Inline.Basic

/-!
# HTML of a document

Every block ends its line, and a container begins a line for its content. Paragraphs of a tight list
are an exception: they have no element of their own, and what follows such a paragraph begins a line.
-/

namespace BraceLink.Commonmark

mutual

/-- A piece as plain text, for a place where only text can stand. -/
def plain : Node → Text
  | .text content | .html content => content
  | .mark symbol _ => [symbol]
  | .softBreak | .hardBreak => ['\n']
  | .image _ _ children => plainAll children
  | _ => []

/-- Several pieces as plain text. -/
def plainAll : List Node → Text
  | [] => []
  | node :: rest => plain node ++ plainAll rest

end

def describe (children : List Node) (attrs : List (Text × Text)) : List (Text × Text) :=
  attrs.map fun attr => if attr.1 = "alt".toList then (attr.1, plainAll children) else attr

/-- A piece as HTML; `closed` asks for a slash in empty elements. -/
def renderNode (closed : Bool) (node : Node) : Text :=
  match node with
  | .text content | .special content => Html.escape content
  | .mark symbol _ => Html.escape [symbol]
  | .code content => Html.startTag "code" [] ++ Html.escape content ++ Html.endTag "code"
  | .html content => content
  | .softBreak => ['\n']
  | .hardBreak => Html.startTag "br" [] closed ++ ['\n']
  | .linkOpen attrs _ => Html.startTag node.tag attrs
  | .emphasisOpen _ => Html.startTag node.tag []
  | .linkClose _ | .emphasisClose _ => Html.endTag node.tag
  | .image attrs _ children => Html.startTag node.tag (describe children attrs) closed

/-- Several pieces as HTML. -/
def renderNodes (closed : Bool) (nodes : List Node) : Text := nodes.flatMap (renderNode closed)

/-- The language that the remark of a fence names. -/
def fenceLanguage (info : Text) : Option Text := (Text.words (Html.resolveAll info)).head?

def lineElement (name content : Text) : Text :=
  Html.startTag name [] ++ content ++ Html.endTag name ++ ['\n']

def codeElement (attrs : List (Text × Text)) (content : Text) : Text :=
  "<pre>" ++ Html.startTag "code" attrs ++ Html.escape content ++ "</code></pre>\n"

/-- A line end if the condition holds. -/
def newlineIf (condition : Bool) : Text := if condition then ['\n'] else []

/-- Whether a block is shown without an element of its own. -/
def Block.isHidden (tight : Bool) : Block → Bool
  | .paragraph _ => tight
  | _ => false

mutual

/-- The HTML of a block, given how text is read. -/
def renderBlock (closed : Bool) (inline : Text → Except Fault (List Node)) (tight : Bool) :
    Block → Except Fault Text
  | .paragraph content => do
    let shown := renderNodes closed (← inline content)
    return if tight then shown else lineElement "p" shown
  | .heading level content => do
    return lineElement ('h' :: Text.ofNat level) (renderNodes closed (← inline content))
  | .rule => .ok (Html.startTag "hr" [] closed ++ ['\n'])
  | .code content => .ok (codeElement [] content)
  | .fence info content =>
    let attrs : List (Text × Text) :=
      match fenceLanguage info with
      | some language => [("class", "language-" ++ language)]
      | none => []
    .ok (codeElement attrs content)
  | .html content => .ok content
  | .quote children => do
    let content ← renderBlocks closed inline false false children
    return "<blockquote>" ++ newlineIf (!children.isEmpty) ++ content ++ "</blockquote>\n"
  | .list first tight items => do
    let content ← renderItems closed inline tight items
    match first with
    | none => return "<ul>\n" ++ content ++ "</ul>\n"
    | some number =>
      let attrs : List (Text × Text) :=
        if number = 1 then [] else [("start", Text.ofNat number)]
      return Html.startTag "ol" attrs ++ '\n' :: content ++ "</ol>\n"

/-- The HTML of several blocks; `hidden` tells whether the block before them has no element. -/
def renderBlocks (closed : Bool) (inline : Text → Except Fault (List Node)) (tight hidden : Bool) :
    List Block → Except Fault Text
  | [] => .ok []
  | block :: rest => do
    let separated :=
      match block with
      | .code _ | .fence _ _ | .html _ => false
      | .paragraph _ => hidden && !tight
      | _ => hidden
    let shown ← renderBlock closed inline tight block
    let more ← renderBlocks closed inline tight (block.isHidden tight) rest
    return newlineIf separated ++ shown ++ more

def renderItems (closed : Bool) (inline : Text → Except Fault (List Node)) (tight : Bool) :
    List (List Block) → Except Fault Text
  | [] => .ok []
  | item :: rest => do
    let begins := (item.head?.map fun block => !block.isHidden tight).getD false
    let content ← renderBlocks closed inline tight false item
    let more ← renderItems closed inline tight rest
    return "<li>" ++ newlineIf begins ++ content ++ "</li>\n" ++ more

end

end BraceLink.Commonmark
