import BraceLink.Text.Basic

/-!
# Errors of documents
-/

namespace BraceLink.Yaml

/-- Why a document gives no value. -/
inductive Error where
  /-- The text is no document, or a value does not suit its tag. -/
  | malformed
  /-- A numeral that is none, or a date that the calendar does not have. -/
  | badNumber
  /-- A numeral without any character. -/
  | noNumber
  /-- A word that is no truth value. -/
  | badTruth
  /-- A text that is no moment. -/
  | badMoment
  /-- A moment that is given by a mapping. -/
  | entryMoment
  /-- The code of a character that is too large to be counted. -/
  | hugeCode
  /-- A place in front of the point that counts for more than a number with a fraction can hold. -/
  | hugePlace
  /-- Default entries that lead back to where they start. -/
  | endless
  deriving DecidableEq, Repr

end BraceLink.Yaml
