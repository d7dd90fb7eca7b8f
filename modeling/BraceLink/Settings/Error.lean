import BraceLink.Settings.Value

/-!
# Errors of settings

What can be wrong with given settings, where it is, and how it is told. The place of a defect is a path
of names and positions; it is empty for a defect of the settings as a whole.
-/

namespace BraceLink.Settings

/-- What a value should have been. -/
inductive Shape where
  | mapping
  | list
  | target
  | handler
  deriving DecidableEq, Repr

inductive Defect where
  /-- Something that must be a text that is not empty. -/
  | noText (what : Text)
  | missing (key : Text)
  | expected (shape : Shape) (found : Text)
  /-- A rule without anything to compare links with. -/
  | noMatcher
  /-- A value that is no rule at all. -/
  | noRule
  | badPattern (source : Text) (cause : Pattern.Cause) (offset : Option Nat)
  | unknownOption (key : Text)
  | givenTwice (name : Text)
  /-- Complete settings together with single ones. -/
  | notAlone
  /-- An option that is given in two places. -/
  | givenInBoth
  /-- A file that holds no data. What the YAML reader says of it, behind a colon, is left out. -/
  | unreadable (file : Text)
  deriving DecidableEq, Repr

def Shape.shown : Shape → Text
  | .mapping => "a mapping"
  | .list => "a list"
  | .target => "a URL string or a mapping with 'link'"
  | .handler => "a handler name or MagicLinkHandler"

def Defect.message : Defect → Text
  | .noText what => what ++ " must be a non-empty string"
  | .missing key => "missing '" ++ key ++ "'"
  | .expected shape found => "expected " ++ shape.shown ++ ", got " ++ found
  | .noMatcher => "override needs either 'match' or 'pattern'"
  | .noRule =>
    "expected a (matcher, image) pair or a mapping with 'match'/'pattern' and 'image'"
  | .badPattern source cause offset =>
    "invalid pattern " ++ Text.quoted source ++ ": " ++ cause.describe source offset
  | .unknownOption key => "unknown option " ++ key
  | .givenTwice name => "option " ++ Text.quoted name ++ " given twice"
  | .notAlone => "cannot be combined with a MagicLinkOptions instance"
  | .givenInBoth => "given both in 'options' and as a setting"
  | .unreadable file => "cannot parse " ++ file

/-- Why settings cannot be used. -/
inductive Error where
  | invalid (defect : Defect) (path : Text)
  /-- A pattern asks for more than a pattern can count. -/
  | pattern (error : Pattern.Error)
  /-- A whole number in a key has too many digits to be written. -/
  | longNumber
  deriving DecidableEq, Repr

def Defect.describe (path : Text) (defect : Defect) : Text :=
  if path.isEmpty then defect.message else path ++ ": " ++ defect.message

end BraceLink.Settings
