import BraceLink.Pattern.Expr
import BraceLink.Text.Quoted

/-!
# Errors of patterns

What can be wrong with the text of a pattern, and how it is told. Most errors name the offset where
they were noticed; in a pattern of several lines the message gives line and column as well.
-/

namespace BraceLink.Pattern

/-- What is wrong with the text of a pattern. -/
inductive Cause where
  /-- The text ends with a lone backslash. -/
  | trailingBackslash
  /-- Something that must follow is not there. -/
  | missing (what : Text)
  /-- An escape of a letter has too few digits. -/
  | incompleteEscape (written : Text)
  | badEscape (written : Text)
  | octalTooLarge (written : Text)
  | unknownCharacterName (name : Text)
  /-- A reference to a group from inside it. -/
  | openGroup
  /-- A reference inside a look behind to a group of the same look behind. -/
  | groupInLookBehind
  | noSuchGroup (number : Nat)
  | unterminatedSet
  | badRange (low high : Text)
  | repeatBoundsSwapped
  | nothingToRepeat
  | multipleRepeat
  | unexpectedEnd
  | unknownExtension (mark : Text)
  | badGroupName (name : Text)
  | unknownGroupName (name : Text)
  | groupNumberZero
  | nameTaken (name : Text) (group former : Nat)
  /-- A condition with more than two branches. -/
  | thirdBranch
  | misplacedFlags
  | localeFlag
  | incompatibleFlags
  | unknownFlag
  | globalFlag (turnedOn : Bool)
  | typeFlagOff
  | flagOnAndOff
  | unbalanced
  /-- The text is well formed, but the pattern cannot be used. -/
  | defect (reason : Expr.Defect)
  deriving DecidableEq, Repr

/-- The name of a kind of repetition. -/
def Greed.name : Greed → Text
  | .most => "MAX_REPEAT"
  | .least => "MIN_REPEAT"
  | .held => "POSSESSIVE_REPEAT"

/-- What forbids the use of a pattern, in words. -/
def Expr.Defect.message : Expr.Defect → Text
  | .openLookBehind => "look-behind requires fixed-width pattern"
  | .wideLookBehind => "looks too much behind"
  | .templateRepeat greed => "internal: unsupported template operator " ++ greed.name

def Cause.message : Cause → Text
  | .trailingBackslash => "bad escape (end of pattern)"
  | .missing what => "missing " ++ what
  | .incompleteEscape written => "incomplete escape " ++ written
  | .badEscape written => "bad escape " ++ written
  | .octalTooLarge written =>
    "octal escape value " ++ written ++ " outside of range 0-0o377"
  | .unknownCharacterName name => "undefined character name " ++ Text.quoted name
  | .openGroup => "cannot refer to an open group"
  | .groupInLookBehind => "cannot refer to group defined in the same lookbehind subpattern"
  | .noSuchGroup number => "invalid group reference " ++ Text.ofNat number
  | .unterminatedSet => "unterminated character set"
  | .badRange low high => "bad character range " ++ low ++ '-' :: high
  | .repeatBoundsSwapped => "min repeat greater than max repeat"
  | .nothingToRepeat => "nothing to repeat"
  | .multipleRepeat => "multiple repeat"
  | .unexpectedEnd => "unexpected end of pattern"
  | .unknownExtension mark => "unknown extension " ++ mark
  | .badGroupName name => "bad character in group name " ++ Text.quoted name
  | .unknownGroupName name => "unknown group name " ++ Text.quoted name
  | .groupNumberZero => "bad group number"
  | .nameTaken name group former =>
    "redefinition of group name " ++ Text.quoted name ++ " as group " ++ Text.ofNat group ++
      "; was group " ++ Text.ofNat former
  | .thirdBranch => "conditional backref with more than two branches"
  | .misplacedFlags => "global flags not at the start of the expression"
  | .localeFlag => "bad inline flags: cannot use 'L' flag with a str pattern"
  | .incompatibleFlags => "bad inline flags: flags 'a', 'u' and 'L' are incompatible"
  | .unknownFlag => "unknown flag"
  | .globalFlag true => "bad inline flags: cannot turn on global flag"
  | .globalFlag false => "bad inline flags: cannot turn off global flag"
  | .typeFlagOff => "bad inline flags: cannot turn off flags 'a', 'u' and 'L'"
  | .flagOnAndOff => "bad inline flags: flag turned on and off"
  | .unbalanced => "unbalanced parenthesis"
  | .defect reason => reason.message

/-- Why a text is no pattern. -/
inductive Error where
  | malformed (cause : Cause) (offset : Option Nat)
  /-- A number in the text is beyond what a pattern can count. -/
  | tooLarge
  /-- The text asks for ASCII and for all letters at once, or a number in it is too long to read. -/
  | unusable
  deriving DecidableEq, Repr

/-- Where the offset lies in the text: in words, with line and column if there are several lines. -/
def placeText (source : Text) (offset : Nat) : Text :=
  let before := source.take offset
  let column := (before.reverse.takeWhile fun c => c ≠ '\n').length + 1
  " at position " ++ Text.ofNat offset ++
    if '\n' ∈ source then
      " (line " ++ Text.ofNat (before.count '\n' + 1) ++ ", column " ++ Text.ofNat column ++ ")"
    else []

def Cause.describe (source : Text) (offset : Option Nat) (cause : Cause) : Text :=
  cause.message ++ (offset.map (placeText source)).getD []

end BraceLink.Pattern
