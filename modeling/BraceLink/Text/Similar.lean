import BraceLink.Text.Basic

/-!
# Similar texts

Two texts are as similar as the share of their characters in common blocks: the longest common block,
and then the common blocks on both sides of it. Of several longest blocks the earliest in the first
text counts, and then the earliest in the second one.

* `Text.common`: how many characters stand in common blocks.
* `Text.closest`: the texts of a list that are similar enough to a given one.
-/

namespace BraceLink.Text

/-- How many characters two texts have in common at their beginnings. -/
def sharedStart : Text → Text → Nat
  | c :: cs, d :: ds => if c = d then sharedStart cs ds + 1 else 0
  | _, _ => 0

/-- A common block: where it begins in each of the two texts, and its length. -/
structure Block where
  first : Nat := 0
  second : Nat := 0
  length : Nat := 0

/-- The longer block, or the first one of two equal ones. -/
def Block.longer (a b : Block) : Block := if a.length < b.length then b else a

/-- The longest block that begins at the beginning of the first text. -/
def blockAtStart (a : Text) : Text → Block
  | [] => {}
  | d :: ds =>
    let later := blockAtStart a ds
    Block.longer { length := sharedStart a (d :: ds) } { later with second := later.second + 1 }

def longestBlock : Text → Text → Block
  | [], _ => {}
  | c :: cs, b =>
    let later := longestBlock cs b
    (blockAtStart (c :: cs) b).longer { later with first := later.first + 1 }

/-- How many characters stand in common blocks. -/
def common (a b : Text) : Nat :=
  match longestBlock a b with
  | ⟨first, second, length⟩ =>
    if _h : 0 < length ∧ first + length ≤ a.length then
      common (a.take first) (b.take second) + length +
        common (a.drop (first + length)) (b.drop (second + length))
    else 0
termination_by a.length
decreasing_by
  · simp only [List.length_take]; omega
  · simp only [List.length_drop]; omega

/-- Whether three fifths of the characters of both texts stand in common blocks. -/
def isClose (a b : Text) : Bool := 3 * (a.length + b.length) ≤ 10 * common a b

/-- Whether the first text is the better match for `word`; of equally good ones it is the greater. -/
def isCloser (word a b : Text) : Bool :=
  let left := common a word * (b.length + word.length)
  let right := common b word * (a.length + word.length)
  right < left || (left = right && !decide (a < b))

/-- The three best of the texts that are close to `word`, in increasing order. -/
def closest (word : Text) (texts : List Text) : List Text :=
  (((texts.filter (isClose · word)).mergeSort (isCloser word)).take 3).mergeSort
    fun a b => !decide (b < a)

end BraceLink.Text
