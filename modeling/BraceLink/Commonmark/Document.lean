import BraceLink.Commonmark.Block.Parser
import BraceLink.Commonmark.Inline.Magic
import BraceLink.Commonmark.Inline.Parser
import BraceLink.Commonmark.Render

/-!
# Documents

A document is read in a dialect: with all of Markdown, or with nothing but paragraphs of text. In both the
rule for brace tokens comes directly before the rule for text.
-/

namespace BraceLink.Commonmark

/-- Which part of Markdown is read. -/
inductive Dialect where
  /-- Paragraphs of text. -/
  | plain
  | full
  deriving DecidableEq, Repr

namespace Dialect

/-- The rules of the dialect beside the one for brace tokens. -/
def ownRules : Dialect → List (Text × Rule)
  | .plain => [("text", Rule.text)]
  | .full =>
    [("text", Rule.text), ("newline", Rule.newline), ("escape", Rule.escape),
      ("backticks", Rule.backticks), ("emphasis", Rule.emphasis), ("link", Rule.link),
      ("image", Rule.image), ("autolink", Rule.autolink), ("html_inline", Rule.html),
      ("entity", Rule.entity)]

/-- The name of the rule for brace tokens. -/
def magicName : Text := "magic_link"

def grammar (dialect : Dialect) (resolver : Resolver) : Grammar :=
  { rules := (magicName, Rule.magic resolver) :: dialect.ownRules }

def blocks (dialect : Dialect) (normalize : Text → Text) : BlockGrammar :=
  { full := dialect = .full, normalize }

end Dialect

/-- The HTML of the text of one paragraph. -/
def renderInline (dialect : Dialect) (resolver : Resolver) (content : Text) : Result Text := do
  let setting : Setting := { normalize := resolver.normalize, html := dialect = .full }
  return renderNodes (dialect = .full) (← (dialect.grammar resolver).parse setting content)

/-- The HTML of a document, with `half` for each surrogate in it. -/
def render (dialect : Dialect) (resolver : Resolver) (source : Text) (half : Char := Url.replacement) :
    Result Text :=
  let document := (dialect.blocks resolver.normalize).parse source
  let setting : Setting :=
    { normalize := resolver.normalize
      definitions := document.definitions
      html := dialect = .full
      half }
  renderBlocks (dialect = .full) ((dialect.grammar resolver).parse setting) false false
    document.blocks

end BraceLink.Commonmark
