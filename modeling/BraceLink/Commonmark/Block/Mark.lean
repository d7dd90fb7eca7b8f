import BraceLink.Commonmark.Block.Basic
import BraceLink.Html.Tag

/-!
# Beginnings of blocks

What the first line of a block looks like, and which blocks may end a paragraph, a quotation or an item
of a list that comes before them.
-/

namespace BraceLink.Commonmark

/-- A fence: its mark, how often it stands there, and the remark after it. -/
structure Fence where
  mark : Char
  length : Nat
  info : Text

/-- The fence that the line opens. -/
def Scope.fence? (scope : Scope) (n : Nat) : Option Fence :=
  if scope.isCode n then none
  else
    match (scope.line n).content with
    | mark :: rest =>
      if mark = '\x60' || mark = '~' then
        let length := countWhile (· = mark) rest + 1
        let info := rest.drop (length - 1)
        if length < 3 || (mark = '\x60' && mark ∈ info) then none else some { mark, length, info }
      else none
    | [] => none

def Scope.closesFence (scope : Scope) (fence : Fence) (n : Nat) : Bool :=
  let content := (scope.line n).content
  !scope.isCode n && fence.length ≤ countWhile (· = fence.mark) content &&
    (content.dropWhile (· = fence.mark)).all isGap

def Scope.isQuoted (scope : Scope) (n : Nat) : Bool := (scope.line n).content.head? = some '>'

/-- Whether the line is a thematic break. -/
def Scope.isBreak (scope : Scope) (n : Nat) : Bool :=
  !scope.isCode n &&
    match (scope.line n).content with
    | mark :: rest =>
      (mark = '*' || mark = '-' || mark = '_') && rest.all (fun c => c = mark || isGap c) &&
        2 ≤ rest.count mark
    | [] => false

/-- A mark of an item of a list: the number, if there is one, the last character of the mark and the
length of the mark. -/
structure ItemMark where
  number : Option Nat
  symbol : Char
  length : Nat

def mayFollowItem (rest : Text) : Bool := (rest.head?.map isGap).getD true

def itemMark? (text : Text) : Option ItemMark :=
  let digits := text.takeWhile Char.isDigit
  match text.drop digits.length with
  | symbol :: rest =>
    if !mayFollowItem rest then none
    else if digits.isEmpty then
      if symbol = '*' || symbol = '-' || symbol = '+' then some ⟨none, symbol, 1⟩ else none
    else if digits.length ≤ 9 && (symbol = '.' || symbol = ')') then
      some ⟨some (Text.decimalNumber digits), symbol, digits.length + 1⟩
    else none
  | [] => none

/-- The mark of the first item of a list that begins in the line. -/
def Scope.listMark? (scope : Scope) (n : Nat) : Option ItemMark :=
  let belongsBefore :=
    match scope.listIndent with
    | some listIndent => (listIndent : Int) + 4 ≤ (scope.line n).indent && scope.isOutdented n
    | none => false
  if scope.isCode n || belongsBefore then none else itemMark? (scope.line n).content

/-- Names of elements that begin a block of HTML. -/
def blockNames : List Text :=
  List.map String.toList
    ["address", "article", "aside", "base", "basefont", "blockquote", "body", "caption", "center",
      "col", "colgroup", "dd", "details", "dialog", "dir", "div", "dl", "dt", "fieldset",
      "figcaption", "figure", "footer", "form", "frame", "frameset", "h1", "h2", "h3", "h4", "h5",
      "h6", "head", "header", "hr", "html", "iframe", "legend", "li", "link", "main", "menu",
      "menuitem", "nav", "noframes", "ol", "optgroup", "option", "p", "param", "search", "section",
      "summary", "table", "tbody", "td", "tfoot", "th", "thead", "title", "tr", "track", "ul"]

/-- Names of elements whose content is not HTML. -/
def rawNames : List Text := ["script", "pre", "style", "textarea"]

/-- Kinds of HTML blocks, by what ends them. -/
inductive HtmlBlock where
  /-- Ends with a line that holds one of the texts. -/
  | closedBy (texts : List Text)
  /-- Ends before an empty line. -/
  | untilEmpty (endsParagraph : Bool)

/-- The name at the beginning of a text in small letters, and the text after it. -/
def tagName (text : Text) : Text × Text :=
  let name := text.takeWhile Html.isTagChar
  (Text.lowerAscii name, text.drop name.length)

def endsTagName (slash : Bool) (rest : Text) : Bool :=
  match rest with
  | [] => true
  | '/' :: '>' :: _ => slash
  | c :: _ => Text.isBlank c || c = '>'

/-- The kind of HTML block that begins with the text. -/
def htmlBlock? (text : Text) : Option HtmlBlock :=
  match text with
  | '<' :: rest =>
    let (name, after) := tagName rest
    let (endName, afterEnd) := tagName (rest.drop 1)
    let isEnd := rest.head? = some '/'
    if rawNames.contains name && endsTagName false after then
      some (.closedBy (rawNames.map fun name => "</" ++ name ++ ">"))
    else if Text.isPrefix "!--" rest then some (.closedBy ["-->"])
    else if Text.isPrefix "?" rest then some (.closedBy ["?>"])
    else if rest.head? = some '!' && ((rest.drop 1).head?.map Char.isUpper).getD false then
      some (.closedBy [">"])
    else if Text.isPrefix "![CDATA[" rest then some (.closedBy ["]]>"])
    else if (blockNames.contains name && endsTagName true after) ||
        (isEnd && blockNames.contains endName && endsTagName true afterEnd) then
      some (.untilEmpty true)
    else
      match Html.afterTag? text with
      | some after => if after.all Text.isBlank then some (.untilEmpty false) else none
      | none => none
  | _ => none

def HtmlBlock.endsWith (block : HtmlBlock) (text : Text) : Bool :=
  match block with
  | .closedBy texts => texts.any fun part => Text.has part (Text.lowerAscii text)
  | .untilEmpty _ => text.isEmpty

/-- The kind of HTML block that begins in the line. -/
def Scope.htmlBlock? (scope : Scope) (n : Nat) : Option HtmlBlock :=
  if scope.isCode n then none else Commonmark.htmlBlock? (scope.line n).content

/-- The level and the text of the heading in the line. -/
def Scope.heading? (scope : Scope) (n : Nat) : Option (Nat × Text) :=
  if scope.isCode n then none
  else
    let content := (scope.line n).content
    let level := countWhile (· = '#') content
    let rest := content.drop level
    if level = 0 || 6 < level || !(rest.head?.map isGap).getD true then none
    else
      let trimmed := Text.dropEndWhile isGap rest
      let unmarked := Text.dropEndWhile (· = '#') trimmed
      let cut := if (unmarked.getLast?.map isGap).getD false then unmarked else trimmed
      some (level, Text.strip cut)

/-- What a block may come before another one ends. -/
inductive Interrupted where
  | paragraph
  | definition
  | quote
  | item
  deriving DecidableEq, Repr

/-- Whether a list that begins in the line ends what comes before it. Inside a paragraph a list needs
content, and numbers begin with one. -/
def Scope.listInterrupts (scope : Scope) (what : Interrupted) (n : Nat) : Bool :=
  match scope.listMark? n with
  | none => false
  | some mark =>
    if what = .paragraph && !scope.isOutdented n then
      (mark.number.isNone || mark.number = some 1) &&
        !((scope.line n).content.drop mark.length).all isGap
    else true

/-- Whether a block that begins in the line ends what comes before it. -/
def Scope.interrupts (scope : Scope) (what : Interrupted) (n : Nat) : Bool :=
  (scope.fence? n).isSome || (!scope.isCode n && scope.isQuoted n) || scope.isBreak n ||
    (what ≠ .item &&
      (scope.listInterrupts what n ||
        (match scope.htmlBlock? n with
          | some (.untilEmpty endsParagraph) => endsParagraph
          | some (.closedBy _) => true
          | none => false) ||
        (scope.heading? n).isSome))

end BraceLink.Commonmark
