import BraceLink.Number.Binary64
import BraceLink.Text.Blank
import BraceLink.Text.WordChar

/-!
# Numerals

Numbers as people write them: blanks around the numeral, a sign, digits of any script, and in whole numbers
single low lines between digits.

* `integerIn?`, `integer?`: whole numbers.
* `float?`: numbers with a fraction or a power of ten, and the words for what is no number.
-/

namespace BraceLink.Number

def digitIn? (base : Nat) (c : Char) : Option Nat :=
  let value :=
    match Text.digitValue? c with
    | some digit => some digit
    | none => if c.isAlpha then some (c.toLower.toNat - 'a'.toNat + 10) else none
  value.filter (· < base)

/-- The value of digits after the value read so far; a low line stands only between two digits. -/
def digitsValue? (base value : Nat) : Text → Option Nat
  | [] => some value
  | '_' :: c :: rest =>
    (digitIn? base c).bind fun digit => digitsValue? base (value * base + digit) rest
  | c :: rest =>
    (digitIn? base c).bind fun digit => digitsValue? base (value * base + digit) rest

/-- The value of a numeral without a sign. -/
def naturalIn? (base : Nat) : Text → Option Nat
  | [] => none
  | c :: rest => (digitIn? base c).bind fun digit => digitsValue? base digit rest

def baseLetter? : Nat → Option Char
  | 2 => some 'b'
  | 8 => some 'o'
  | 16 => some 'x'
  | _ => none

def withoutMark (base : Nat) (numeral : Text) : Text :=
  match numeral with
  | '0' :: letter :: '_' :: rest => if baseLetter? base = some letter.toLower then rest else numeral
  | '0' :: letter :: rest => if baseLetter? base = some letter.toLower then rest else numeral
  | _ => numeral

/-- The value of a numeral of the base, which may be marked. -/
def integerIn? (base : Nat) (numeral : Text) : Option Int :=
  let value? (digits : Text) : Option Int :=
    (naturalIn? base (withoutMark base digits)).map fun n => (n : Int)
  match Text.strip numeral with
  | '-' :: digits => (value? digits).map fun n => -n
  | '+' :: digits => value? digits
  | digits => value? digits

/-- The value of a decimal numeral. -/
def integer? (numeral : Text) : Option Int := integerIn? 10 numeral

/-- Numerals with more digits than this are not read. -/
def maxDigits : Nat := 4300

/-- The digits at the beginning of a text, and the rest. -/
def leadingDigits : Text → List Nat × Text
  | [] => ([], [])
  | c :: rest =>
    match Text.digitValue? c with
    | none => ([], c :: rest)
    | some digit =>
      let (digits, after) := leadingDigits rest
      (digit :: digits, after)

/-- The number that decimal digits make. -/
def ofDigits (digits : List Nat) : Nat := digits.foldl (fun n digit => n * 10 + digit) 0

/-- The power of ten at the end of a numeral. -/
def exponent? : Text → Option Int
  | [] => some 0
  | letter :: rest =>
    let (isNegative, digits) :=
      match rest with
      | '-' :: digits => (true, digits)
      | '+' :: digits => (false, digits)
      | digits => (false, digits)
    match leadingDigits digits with
    | (digit :: more, []) =>
      let power : Int := ofDigits (digit :: more)
      if letter = 'e' || letter = 'E' then some (if isNegative then -power else power) else none
    | _ => none

/-- The value of a numeral without a sign. -/
def unsignedFloat? (numeral : Text) : Option Binary64 :=
  let word := Text.lowerAscii numeral
  if word = "inf".toList || word = "infinity".toList then some (.infinite false)
  else if word = "nan".toList then some .nan
  else
    let (whole, rest) := leadingDigits numeral
    let (fraction, rest) :=
      match rest with
      | '.' :: rest => leadingDigits rest
      | rest => ([], rest)
    if whole.isEmpty && fraction.isEmpty then none
    else
      (exponent? rest).map fun exponent =>
        .ofDecimal false (ofDigits (whole ++ fraction)) (exponent - fraction.length)

/-- The value of a numeral with a fraction or a power of ten, without low lines. -/
def float? (numeral : Text) : Option Binary64 :=
  match Text.strip numeral with
  | '-' :: digits => (unsignedFloat? digits).map Binary64.neg
  | '+' :: digits => unsignedFloat? digits
  | digits => unsignedFloat? digits

end BraceLink.Number
