import BraceLink.Text.Blank
import BraceLink.Text.Lowercase
import BraceLink.Text.Uppercase
import BraceLink.Text.WordChar

/-!
# Letters in patterns

When a pattern ignores case, a letter stands for all letters with the same small form, and a few
small letters, such as the two sigmas, stand for each other. Code points are numbers here, because a
pattern may name any of them.
-/

namespace BraceLink.Pattern

/-- How a pattern treats case. -/
inductive Folding where
  /-- Case matters. -/
  | exact
  /-- Case of the ASCII letters is ignored. -/
  | ascii
  /-- Case of all letters is ignored. -/
  | full
  deriving DecidableEq, Repr

/-- Small letters with other small letters that have the same capital, in version 14 of the character
database. -/
def siblings : List (Nat × List Nat) :=
  [(0x69, [0x131]), (0x73, [0x17F]), (0xB5, [0x3BC]), (0x131, [0x69]), (0x17F, [0x73]),
   (0x345, [0x3B9, 0x1FBE]), (0x390, [0x1FD3]), (0x3B0, [0x1FE3]), (0x3B2, [0x3D0]),
   (0x3B5, [0x3F5]), (0x3B8, [0x3D1]), (0x3B9, [0x345, 0x1FBE]), (0x3BA, [0x3F0]),
   (0x3BC, [0xB5]), (0x3C0, [0x3D6]), (0x3C1, [0x3F1]), (0x3C2, [0x3C3]), (0x3C3, [0x3C2]),
   (0x3C6, [0x3D5]), (0x3D0, [0x3B2]), (0x3D1, [0x3B8]), (0x3D5, [0x3C6]), (0x3D6, [0x3C0]),
   (0x3F0, [0x3BA]), (0x3F1, [0x3C1]), (0x3F5, [0x3B5]), (0x432, [0x1C80]), (0x434, [0x1C81]),
   (0x43E, [0x1C82]), (0x441, [0x1C83]), (0x442, [0x1C84, 0x1C85]), (0x44A, [0x1C86]),
   (0x463, [0x1C87]), (0x1C80, [0x432]), (0x1C81, [0x434]), (0x1C82, [0x43E]), (0x1C83, [0x441]),
   (0x1C84, [0x442, 0x1C85]), (0x1C85, [0x442, 0x1C84]), (0x1C86, [0x44A]), (0x1C87, [0x463]),
   (0x1C88, [0xA64B]), (0x1E61, [0x1E9B]), (0x1E9B, [0x1E61]), (0x1FBE, [0x345, 0x3B9]),
   (0x1FD3, [0x390]), (0x1FE3, [0x3B0]), (0xA64B, [0x1C88]), (0xFB05, [0xFB06]),
   (0xFB06, [0xFB05])]

/-- The other small letters with the same capital. -/
def siblingsOf (small : Nat) : List Nat := (siblings.lookup small).getD []

/-- The single small letter of a code point. -/
def smallOf (n : Nat) : Nat := if n.isValidChar then (Text.lowerChar (Char.ofNat n)).toNat else n

/-- The first capital of a code point. -/
def capitalOf (n : Nat) : Nat :=
  if n.isValidChar then ((Text.upperChar (Char.ofNat n)).head?.map Char.toNat).getD n else n

/-- Whether the code point has a case. -/
def isCased (n : Nat) : Bool := smallOf n ≠ n || capitalOf n ≠ n

/-- Whether the code point is an ASCII letter. -/
def isAsciiLetter (n : Nat) : Bool := (0x41 ≤ n && n ≤ 0x5A) || (0x61 ≤ n && n ≤ 0x7A)

/-- The small form of an ASCII letter; all else stays. -/
def asciiSmallOf (n : Nat) : Nat := if 0x41 ≤ n ∧ n ≤ 0x5A then n + 0x20 else n

/-- Whether the run has a member from `low` to `high`. -/
def meetsRun (low high : Nat) (run : Text.CaseRun) : Bool :=
  let first :=
    if low ≤ run.low then run.low
    else run.low + (low - run.low + run.step - 1) / run.step * run.step
  first ≤ high && first ≤ run.high

/-- Whether one of the code points from `low` to `high` has a case. -/
def rangeIsCased (low high : Nat) : Bool :=
  Text.lowercaseRuns.any (meetsRun low high) || Text.uppercaseRuns.any (meetsRun low high) ||
    (Text.uppercaseExpansions.any fun entry => low ≤ entry.1 && entry.1 ≤ high) ||
    (low ≤ 0x130 && 0x130 ≤ high)

/-- The code points with the given small form. -/
def withSmall (small : Nat) : List Nat :=
  let own := if smallOf small = small then [small] else []
  let dotted := if small = 0x69 then [0x130] else []
  own ++ dotted ++
    Text.lowercaseRuns.filterMap fun run =>
      let n := ((small : Int) - run.shift).toNat
      if run.low ≤ n ∧ n ≤ run.high ∧ (n - run.low) % run.step = 0 ∧ smallOf n = small then some n
      else none

end BraceLink.Pattern
