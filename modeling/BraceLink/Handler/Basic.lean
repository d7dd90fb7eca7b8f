import BraceLink.Link
import BraceLink.Text.Quoted

/-!
# Handlers

A handler turns a payload into a draft or declines. After a draft has been filled in, every handler
of a chain may correct the record, whichever handler has won. A handler from elsewhere may fail.
-/

namespace BraceLink

/-- The failure of a handler, with its message. -/
structure Fault where
  message : Text
  deriving DecidableEq, Repr

structure Handler where
  /-- The name that messages show. -/
  name : Text
  /-- The kind of handler that messages show. -/
  label : Text
  /-- The draft for a payload, or nothing if the handler declines. -/
  resolve : Text → Except Fault (Option Draft)
  /-- A corrected record, or nothing if the record stays as it is. -/
  postprocess : Record → Option Record := fun _ => none

namespace Handler

/-- The handler that answers by a function that never fails. -/
def pure (name label : Text) (answer : Text → Option Draft)
    (postprocess : Record → Option Record := fun _ => none) : Handler :=
  { name, label, resolve := fun payload => .ok (answer payload), postprocess }

/-- The expression that messages show for a handler. -/
def literal (handler : Handler) : Text :=
  handler.label ++ "(name=" ++ Text.quoted handler.name ++ ")"

end Handler

end BraceLink
