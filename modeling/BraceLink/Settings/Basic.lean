import BraceLink.Handler.Named
import BraceLink.Handler.Platform
import BraceLink.ImageRule
import BraceLink.Table

/-!
# Settings

What a resolver is configured with: the targets of names, the users of platforms, the image rules and,
if the default one does not serve, the chain of handlers.
-/

namespace BraceLink

/-- An entry of a chain: a handler, or the name of one. -/
inductive ChainEntry where
  | name (n : Text)
  | handler (h : Handler)

structure Settings where
  links : Table Target := []
  platforms : Table (Table Profile) := []
  rules : List ImageRule := []
  /-- The chain; nothing stands for the default chain. -/
  chain : Option (List ChainEntry) := none

end BraceLink
