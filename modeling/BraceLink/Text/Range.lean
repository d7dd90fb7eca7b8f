import BraceLink.Text.Basic

/-!
# Ranges of code points

Properties and case mappings of characters are data of a standard. A property is a list of closed
ranges in increasing order; a case mapping is a list of runs of characters that all move by the same
distance.
-/

namespace BraceLink.Text

/-- Closed ranges of code points in increasing order. -/
abbrev CodeRanges := List (Nat × Nat)

/-- Whether the code point of the character lies in one of the ranges. -/
def CodeRanges.mem : CodeRanges → Char → Bool
  | [], _ => false
  | (low, high) :: rest, c =>
    if c.toNat < low then false else c.toNat ≤ high || CodeRanges.mem rest c

/-- Characters from `low` to `high` in steps of `step`, each moved by `shift`. -/
structure CaseRun where
  low : Nat
  high : Nat
  step : Nat
  shift : Int

/-- Runs of a case mapping in increasing order. -/
abbrev CaseRuns := List CaseRun

/-- The character that the mapping gives; a character in no run is its own image. -/
def CaseRuns.map : CaseRuns → Char → Char
  | [], c => c
  | run :: rest, c =>
    if c.toNat < run.low then c
    else if c.toNat ≤ run.high ∧ (c.toNat - run.low) % run.step = 0 then
      Char.ofNat (c.toNat + run.shift).toNat
    else CaseRuns.map rest c

end BraceLink.Text
