import BraceLink.Text.Basic

/-!
# The version of the library
-/

namespace BraceLink

/-- The version that the program reports. -/
def version : Text := "0.1.0"

end BraceLink
