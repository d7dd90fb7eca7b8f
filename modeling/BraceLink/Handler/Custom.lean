import BraceLink.Handler.Basic

/-!
# Handlers from elsewhere

Three handlers that do not belong to the default chain: one with a fixed answer, one for packages of a
package registry, and one that always declines.
-/

namespace BraceLink.Handler

/-- Answers every payload in the same way and adds a suffix to the text of every record. -/
def fixed (name : Text) (answer : Except Fault (Option Draft)) (suffix : Option Text) : Handler :=
  { name
    label := "StaticHandler"
    resolve := fun _ => answer
    postprocess := fun record =>
      suffix.map fun suffix => { record with text := record.text ++ suffix } }

/-- Answers payloads of the form `npm:package`. -/
def package : Handler :=
  pure "npm" "NpmHandler" fun payload =>
    (Text.dropPrefix? "npm:" payload).map fun name =>
      { link := "https://www.npmjs.com/package/" ++ name
        text := some name
        kind := some "npm"
        classes := ["extra", "npm"] }

def silent : Handler := pure "null" "NullHandler" fun _ => none

end BraceLink.Handler
