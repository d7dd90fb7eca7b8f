import BraceLink.Link
import BraceLink.Pattern.Basic

/-!
# Image rules

A rule gives an image to the links that it matches: a link that equals a text, or a link in which a
pattern is found. Of several rules the first one that matches decides.
-/

namespace BraceLink

/-- What a rule compares a link with. -/
inductive Matcher where
  | exact (link : Text)
  | pattern (p : Pattern)

/-- The expression that messages show for a matcher. -/
def Matcher.literal : Matcher → Text
  | .exact link => Text.quoted link
  | .pattern p => p.literal

def Matcher.holds (matcher : Matcher) (link : Text) : Bool :=
  match matcher with
  | .exact text => link = text
  | .pattern p => p.search link

/-- A matcher and the image of the links that it matches. -/
structure ImageRule where
  matcher : Matcher
  image : Text

namespace ImageRule

/-- The expression that messages show for a rule. -/
def literal (rule : ImageRule) : Text :=
  "ImageOverride(matcher=" ++ rule.matcher.literal ++ ", image_url=" ++ Text.quoted rule.image ++ ")"

def first? (rules : List ImageRule) (link : Text) : Option ImageRule :=
  rules.find? fun rule => rule.matcher.holds link

/-- The record with the image of the first rule that matches its link. -/
def apply (rules : List ImageRule) (record : Record) : Record :=
  match first? rules record.link with
  | some rule => { record with image := rule.image }
  | none => record

end ImageRule

end BraceLink
