import BraceLink.Text.Basic

/-!
# Blank characters

The spaces, line ends and separators that are trimmed from the parts of a payload.
-/

namespace BraceLink.Text

/-- Whether the character is a space, a line end or another separator. -/
def isBlank (c : Char) : Bool :=
  let n := c.toNat
  (0x09 ≤ n && n ≤ 0x0D) || (0x1C ≤ n && n ≤ 0x20) || n = 0x85 || n = 0xA0 || n = 0x1680 ||
    (0x2000 ≤ n && n ≤ 0x200A) || n = 0x2028 || n = 0x2029 || n = 0x202F || n = 0x205F ||
    n = 0x3000

/-- Drops the blank characters on both sides. -/
def strip (text : Text) : Text := stripWhile isBlank text

/-- The runs of characters between the blanks. -/
def words (text : Text) : List Text :=
  (text.splitBy fun a b => isBlank a == isBlank b).filter fun run => !run.any isBlank

end BraceLink.Text
