import BraceLink.Pattern.Parser
import BraceLink.Pattern.Search
import BraceLink.Text.Quoted

/-!
# Patterns

A pattern is compiled from its text, or refused with the reason, and searched for in other texts.
-/

namespace BraceLink

structure Pattern where
  /-- The text it was compiled from. -/
  source : Text
  /-- The letters of the flags for the whole pattern. -/
  flags : List Char := []
  expr : Pattern.Expr
  deriving Repr

namespace Pattern

def compile (source : Text) (ignoreCase : Bool := false) : Except Error Pattern := do
  let ((expr, flags), _) ← readPattern ignoreCase { rest := source, offset := 0 }
  match expr.defect? ('t' ∈ flags) with
  | some reason => throw (.malformed (.defect reason) none)
  | none => return { source, flags, expr }

def flagNames : List (Char × Text) :=
  [('t', "re.TEMPLATE"), ('i', "re.IGNORECASE"), ('m', "re.MULTILINE"), ('s', "re.DOTALL"), ('x', "re.VERBOSE"),
    ('a', "re.ASCII")]

/-- The expression that messages show for a pattern; a long source is cut off. -/
def literal (pattern : Pattern) : Text :=
  let names := (flagNames.filter fun entry => entry.1 ∈ pattern.flags).map Prod.snd
  let flags : Text := if names.isEmpty then [] else ", " ++ Text.join "|" names
  "re.compile(" ++ (Text.quoted pattern.source).take 200 ++ flags ++ ")"

/-- Whether the pattern matches somewhere in the text. -/
def search (pattern : Pattern) (text : Text) : Bool := pattern.expr.found text

end Pattern

end BraceLink
