import BraceLink.Text.Blank

/-!
# Payloads

A payload is a sequence of parts between bars, each without the blanks around it. Handlers read the
first three parts; a part that is missing reads as an empty one.
-/

namespace BraceLink.Payload

def parts (payload : Text) : List Text :=
  (Text.splitOn '|' payload).map Text.strip

/-- The part with the given index, empty if there is none. -/
def part (index : Nat) (payload : Text) : Text := (parts payload).getD index []

def ofParts (parts : List Text) : Text := Text.join ['|'] parts

def firstNonEmpty (texts : List Text) (last : Text) : Text :=
  (texts.find? fun text => !text.isEmpty).getD last

end BraceLink.Payload
