import BraceLink.Text.Basic

/-!
# Marks

While a document is read, parts that are finished are put aside, and a mark with their number stands in their
place. A mark begins and ends with control characters that no document has. A character that must not be read
any more is a mark with its code.

* `mapMarks`: puts something into the place of every mark of a kind.
-/

namespace BraceLink.Classic

def markStart : Char := '\x02'

def markEnd : Char := '\x03'

/-- What a mark for a part of a line begins with. -/
def inlineStart : Text := markStart :: "klzzwxh:"

/-- What a mark for a piece of HTML begins with. -/
def htmlStart : Text := markStart :: "wzxhzdk:"

/-- The numeral of the number with at least four digits. -/
def fourDigits (n : Nat) : Text :=
  let digits := Text.ofNat n
  List.replicate (4 - digits.length) '0' ++ digits

/-- The mark for a part of a line. -/
def inlineMark (n : Nat) : Text := inlineStart ++ fourDigits n ++ [markEnd]

def htmlMark (n : Nat) : Text := htmlStart ++ Text.ofNat n ++ [markEnd]

def charMark (c : Char) : Text := markStart :: Text.ofNat c.toNat ++ [markEnd]

def ampersandMark : Text := markStart :: "amp" ++ [markEnd]

/-- The number of the mark at the beginning of a text, and what follows. -/
def mark? (start text : Text) : Option (Nat × Text) :=
  match Text.dropPrefix? start text with
  | none => none
  | some rest =>
    let digits := rest.takeWhile Char.isDigit
    match rest.drop digits.length with
    | c :: after =>
      if c = markEnd && !digits.isEmpty then some (Text.decimalNumber digits, after) else none
    | [] => none

theorem length_of_mark? {start text rest : Text} {n : Nat} (h : mark? start text = some (n, rest)) :
    rest.length < text.length := by
  unfold mark? at h
  split at h
  · simp at h
  · rename_i after hafter
    have hlen := Text.length_of_dropPrefix? hafter
    simp only at h
    split at h
    · rename_i c more hmore
      split at h
      · have := congrArg List.length hmore
        simp at this h
        obtain ⟨-, rfl⟩ := h
        omega
      · simp at h
    · simp at h

/-- Puts a text into the place of every mark. -/
def mapMarks (start : Text) (f : Nat → Text) (text : Text) : Text :=
  match _h : mark? start text with
  | some (n, rest) => f n ++ mapMarks start f rest
  | none =>
    match text with
    | [] => []
    | c :: rest => c :: mapMarks start f rest
termination_by text.length
decreasing_by
  · exact length_of_mark? _h
  · simp

/-- The texts between the marks, and the marks, in order. -/
def splitMarks (start : Text) (text : Text) : List (Text ⊕ Nat) :=
  match _h : mark? start text with
  | some (n, rest) => .inr n :: splitMarks start rest
  | none =>
    match text with
    | [] => []
    | c :: rest =>
      match splitMarks start rest with
      | .inl part :: more => .inl (c :: part) :: more
      | parts => .inl [c] :: parts
termination_by text.length
decreasing_by
  · exact length_of_mark? _h
  · simp

/-- Puts every character that has been marked back into its place. -/
def unmarkChars (text : Text) : Text := mapMarks [markStart] (fun n => [Char.ofNat n]) text

/-- A text with the lines ends and blanks of a document: no marks, one kind of line ends, no tabs. -/
def expandTabs (column : Nat) : Text → Text
  | [] => []
  | c :: rest =>
    if c = '\t' then
      let width := 4 - column % 4
      List.replicate width ' ' ++ expandTabs (column + width) rest
    else if c = '\n' then c :: expandTabs 0 rest
    else c :: expandTabs (column + 1) rest

end BraceLink.Classic
