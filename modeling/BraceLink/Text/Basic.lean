/-!
# Texts

A text is the list of its code points. Positions and lengths count code points, and every operation
below is a plain function on lists, so that its laws are laws of lists.

* `splitOn`, `join`: cutting at a separator and putting together again.
* `dropPrefix?`, `cut`, `offset?`, `replaceAll`: looking for a text inside another one.
* `ofNat`, `hex`: numerals.
-/

namespace BraceLink

/-- A text is the list of its code points. -/
abbrev Text := List Char

instance : Coe String Text := ⟨String.toList⟩

namespace Text

def openBrace : Char := '\x7B'

def closeBrace : Char := '\x7D'

/-- The pieces between the separators; there is one more piece than there are separators. -/
def splitOn (sep : Char) : Text → List Text
  | [] => [[]]
  | c :: rest =>
    if c = sep then [] :: splitOn sep rest
    else
      match splitOn sep rest with
      | [] => [[c]]
      | piece :: pieces => (c :: piece) :: pieces

/-- The pieces with the separator between each two neighbours. -/
def join (sep : Text) : List Text → Text
  | [] => []
  | [piece] => piece
  | piece :: next :: pieces => piece ++ sep ++ join sep (next :: pieces)

/-- What follows the given beginning, if the text has it. -/
def dropPrefix? : Text → Text → Option Text
  | [], text => some text
  | _ :: _, [] => none
  | c :: cs, d :: ds => if c = d then dropPrefix? cs ds else none

/-- Whether the text begins with the first argument. -/
def isPrefix (start text : Text) : Bool := (dropPrefix? start text).isSome

/-- The text before the first `sep`, and the text after it if there is one. -/
def cut (sep : Char) : Text → Text × Option Text
  | [] => ([], none)
  | c :: rest =>
    if c = sep then ([], some rest)
    else
      let (before, after) := cut sep rest
      (c :: before, after)

/-- The text before the last `sep` if there is one, and the text after it. -/
def cutLast (sep : Char) (text : Text) : Option Text × Text :=
  match cut sep text.reverse with
  | (after, some before) => (some before.reverse, after.reverse)
  | (all, none) => (none, all.reverse)

/-- The offset of the first place where `part` stands. -/
def offset? (part : Text) : Text → Option Nat
  | [] => if part.isEmpty then some 0 else none
  | c :: rest =>
    if isPrefix part (c :: rest) then some 0 else (offset? part rest).map (· + 1)

/-- Whether `part` stands somewhere in the text. -/
def has (part text : Text) : Bool := (offset? part text).isSome

/-- Drops characters from the end of the text while they satisfy `p`. -/
def dropEndWhile (p : Char → Bool) (text : Text) : Text :=
  (text.reverse.dropWhile p).reverse

/-- Drops characters from both ends of the text while they satisfy `p`. -/
def stripWhile (p : Char → Bool) (text : Text) : Text :=
  dropEndWhile p (text.dropWhile p)

theorem length_of_dropPrefix? {start text rest : Text} (h : dropPrefix? start text = some rest) :
    text.length = start.length + rest.length := by
  induction start generalizing text with
  | nil => simp [dropPrefix?] at h; simp [h]
  | cons c cs ih =>
    cases text with
    | nil => simp [dropPrefix?] at h
    | cons d ds =>
      simp only [dropPrefix?] at h
      split at h
      · have := ih h; simp; omega
      · simp at h

/-- Every occurrence of the non-empty text `first :: more`, from left to right and without overlap,
becomes `new`. -/
def replaceFrom (first : Char) (more new : Text) : Text → Text
  | [] => []
  | c :: rest =>
    match _h : dropPrefix? (first :: more) (c :: rest) with
    | some after => new ++ replaceFrom first more new after
    | none => c :: replaceFrom first more new rest
termination_by text => text.length
decreasing_by
  · have := length_of_dropPrefix? _h; simp at this; simp; omega
  · simp

/-- Every occurrence of `old` becomes `new`; an empty `old` stands before every character and at
the end. -/
def replaceAll (old new text : Text) : Text :=
  match old with
  | [] => text.foldr (fun c rest => new ++ c :: rest) new
  | first :: more => replaceFrom first more new text

/-- The decimal numeral of a number. -/
def ofNat (n : Nat) : Text := Nat.toDigits 10 n

/-- The decimal numeral of an integer. -/
def ofInt : Int → Text
  | .ofNat n => ofNat n
  | .negSucc n => '-' :: ofNat (n + 1)

/-- The hexadecimal digit of a number below sixteen, in capitals. -/
def hexDigitUpper (n : Nat) : Char :=
  if n < 10 then Char.ofNat ('0'.toNat + n) else Char.ofNat ('A'.toNat + (n - 10))

/-- The hexadecimal numeral of a number, at least `width` digits long. -/
def hex (width n : Nat) : Text :=
  let digits := Nat.toDigits 16 n
  List.replicate (width - digits.length) '0' ++ digits

def hexValue? (c : Char) : Option Nat :=
  if '0' ≤ c ∧ c ≤ '9' then some (c.toNat - '0'.toNat)
  else if 'a' ≤ c ∧ c ≤ 'f' then some (c.toNat - 'a'.toNat + 10)
  else if 'A' ≤ c ∧ c ≤ 'F' then some (c.toNat - 'A'.toNat + 10)
  else none

def isHexDigit (c : Char) : Bool := (hexValue? c).isSome

/-- The number written by hexadecimal digits; other characters count as zero. -/
def hexNumber (digits : Text) : Nat :=
  digits.foldl (fun n c => n * 16 + (hexValue? c).getD 0) 0

/-- The number written by ASCII decimal digits. -/
def decimalNumber (digits : Text) : Nat :=
  digits.foldl (fun n c => n * 10 + (c.toNat - '0'.toNat)) 0

/-- Lower case of the ASCII letters. -/
def lowerAscii (text : Text) : Text := text.map Char.toLower

/-- The lines of a text without their ends; a text that ends with a line end has no further line. -/
def lines (text : Text) : List Text :=
  match (splitOn '\n' text).reverse with
  | [] :: before => before.reverse
  | pieces => pieces.reverse

/-- A text with a line feed for each of the usual line ends. -/
def unifyLines : Text → Text
  | '\r' :: '\n' :: rest => '\n' :: unifyLines rest
  | '\r' :: rest => '\n' :: unifyLines rest
  | c :: rest => c :: unifyLines rest
  | [] => []

end Text

end BraceLink
