import BraceLink.Text.Blank

/-!
# Elements

A document as a tree of elements. An element has text before its children, and every child has text behind it.
Text that is fixed is not read for Markdown any more.

* `Element.render`: the tree as HTML.
-/

namespace BraceLink.Classic

/-- Text inside of an element. -/
structure Fragment where
  text : Text := []
  /-- Whether the text is not read for Markdown any more. -/
  fixed : Bool := false
  deriving DecidableEq, Repr

namespace Fragment

def none : Fragment := {}

/-- Text that is read for Markdown. -/
def plain (text : Text) : Fragment := { text }

/-- Text that is not read for Markdown. -/
def ofFixed (text : Text) : Fragment := { text, fixed := true }

def isBlank (fragment : Fragment) : Bool := (Text.strip fragment.text).isEmpty

def isEmpty (fragment : Fragment) : Bool := fragment.text.isEmpty

/-- Adds text; what has been put together is not fixed. -/
def append (first more : Fragment) : Fragment :=
  if more.isEmpty then first
  else if first.isEmpty then more
  else .plain (first.text ++ more.text)

end Fragment

/-- An element with its children and the text behind each of them. -/
structure Element where
  tag : Text
  attrs : List (Text × Text) := []
  text : Fragment := .none
  children : List (Element × Fragment) := []

namespace Element

/-- The elements whose content is other blocks or has to stay as it is. -/
def blockTags : List Text :=
  ["address", "article", "aside", "blockquote", "details", "div", "dl", "fieldset", "figcaption",
    "figure", "footer", "form", "h1", "h2", "h3", "h4", "h5", "h6", "header", "hgroup", "hr", "main",
    "menu", "nav", "ol", "p", "pre", "section", "table", "ul", "canvas", "colgroup", "dd", "body",
    "dt", "group", "html", "iframe", "li", "legend", "math", "map", "noscript", "output", "object",
    "option", "progress", "script", "style", "summary", "tbody", "td", "textarea", "tfoot", "th",
    "thead", "tr", "video", "center"].map String.toList

/-- Whether a tag belongs to such an element. -/
def isBlockTag (tag : Text) : Bool :=
  Text.dropEndWhile (· = '/') (Text.lowerAscii tag) ∈ blockTags

/-- The elements that never have content. -/
def emptyTags : List Text :=
  ["area", "base", "basefont", "br", "col", "frame", "hr", "img", "input", "isindex", "link", "meta",
    "param"].map String.toList

def isBlock (e : Element) : Bool := isBlockTag e.tag

def last? (e : Element) : Option (Element × Fragment) := e.children.getLast?

def isCode (e : Element) : Bool :=
  e.tag = "pre".toList && e.children.head?.any fun child => child.1.tag = "code".toList

def isList (e : Element) : Bool := e.tag = "ul".toList || e.tag = "ol".toList

def isItem (e : Element) : Bool := e.tag = "li".toList

/-- Adds a child at the end. -/
def push (e child : Element) : Element := { e with children := e.children ++ [(child, .none)] }

/-- Changes the last child. -/
def mapLast (f : Element → Element) (e : Element) : Element :=
  match e.last? with
  | some (child, tail) => { e with children := e.children.dropLast ++ [(f child, tail)] }
  | none => e

/-! ## As HTML -/

/-- Whether a reference without its first mark begins the text. -/
def startsReference (text : Text) : Bool :=
  let closes (p : Char → Bool) (body : Text) : Bool :=
    let digits := body.takeWhile p
    !digits.isEmpty && (body.drop digits.length).head? = some ';'
  match text with
  | '#' :: x :: body =>
    closes Char.isDigit (x :: body) || ((x = 'x' || x = 'X') && closes Text.isHexDigit body)
  | body => closes Char.isAlphanum body

/-- A text with every mark that begins no reference escaped. -/
def escapeMarks : Text → Text
  | [] => []
  | '&' :: rest => (if startsReference rest then ['&'] else "&amp;".toList) ++ escapeMarks rest
  | c :: rest => c :: escapeMarks rest

/-- A text as it is written between tags. -/
def escapeText (text : Text) : Text :=
  (escapeMarks text).flatMap fun c =>
    if c = '<' then "&lt;".toList else if c = '>' then "&gt;".toList else [c]

def escapeAttribute (text : Text) : Text :=
  (escapeText text).flatMap fun c => if c = '\x22' then "&quot;".toList else [c]

def attributeOrder (a b : Text × Text) : Bool :=
  a.1 < b.1 || (a.1 = b.1 && (a.2 < b.2 || a.2 = b.2))

def startTag (tag : Text) (attrs : List (Text × Text)) : Text :=
  let shown := (attrs.mergeSort attributeOrder).flatMap fun attr =>
    ' ' :: attr.1 ++ '=' :: '\x22' :: escapeAttribute attr.2 ++ ['\x22']
  '<' :: tag ++ shown ++ (if tag ∈ emptyTags then " />" else ">")

def endTag (tag : Text) : Text := if tag ∈ emptyTags then [] else '<' :: '/' :: tag ++ ['>']

mutual

def render : Element → Text
  | ⟨tag, attrs, text, children⟩ =>
    startTag tag attrs ++ (if tag ∈ emptyTags then [] else escapeText text.text) ++
      renderAll children ++ endTag tag

/-- Several elements with the text behind them as HTML. -/
def renderAll : List (Element × Fragment) → Text
  | [] => []
  | (e, tail) :: rest => render e ++ escapeText tail.text ++ renderAll rest

end

mutual

def content : Element → Text
  | ⟨_, _, text, children⟩ => text.text ++ contentAll children

/-- The text inside of several elements and behind them. -/
def contentAll : List (Element × Fragment) → Text
  | [] => []
  | (e, tail) :: rest => content e ++ tail.text ++ contentAll rest

end

end Element

end BraceLink.Classic
