import BraceLink.Number.Numeral
import BraceLink.Text.CharacterName
import BraceLink.Text.WordChar

/-!
# Actions of marks

A mark whose name begins with `@` can give an action: the name of a handler with arguments in parentheses, or the
arguments alone. The arguments are an expression for a constant: numbers, texts and bytes, truth values, and tuples,
sets and mappings of constants.

* `isAction`: whether a text gives an action.
-/

namespace BraceLink.Terminal.Action

/-! ## Symbols -/

/-- What an expression consists of. Of a number it only matters whether it is real, and whether it fits into a
number with a fraction. -/
inductive Symbol where
  | number (isReal fits : Bool)
  | text
  | bytes
  /-- The words for truth, falsehood and nothing, and three points. -/
  | constant
  /-- The name of the function that makes an empty set. -/
  | emptySet
  | sign
  | openParen
  | closeParen
  | openBrace
  | closeBrace
  | comma
  | colon
  /-- The end of a line outside of brackets. -/
  | line
  deriving DecidableEq, Repr

def isNameChar (c : Char) : Bool := c.isAlphanum || c = '_' || 0x80 ≤ c.toNat

/-- Digits in groups between low lines, without these, and the rest. -/
def digits? (p : Char → Bool) : Text → Option (Text × Text)
  | [] => none
  | [c] => if p c then some ([c], []) else none
  | c :: '_' :: rest =>
    if p c then (digits? p rest).map fun (digits, rest) => (c :: digits, rest) else none
  | c :: d :: rest =>
    if !p c then none
    else if p d then (digits? p (d :: rest)).map fun (digits, rest) => (c :: digits, rest)
    else some ([c], d :: rest)

/-- A whole number in the base behind its mark. -/
def based? (base : Nat) (p : Char → Bool) (text : Text) : Option (Symbol × Text) := do
  let (digits, rest) ← digits? p (if text.head? = some '_' then text.tail else text)
  return (.number true (Binary64.fits ((Number.naturalIn? base digits).getD 0)), rest)

/-- The power of ten behind a number, if one stands there. -/
def power? : Text → Option (Bool × Text)
  | 'e' :: rest | 'E' :: rest =>
    let digits :=
      match rest with
      | '+' :: digits | '-' :: digits => digits
      | digits => digits
    (digits? Char.isDigit digits).map fun (_, rest) => (true, rest)
  | rest => some (false, rest)

/-- A decimal number: digits, a fraction behind a point, a power of ten, and the mark of imaginary numbers. -/
def decimal? (text : Text) : Option (Symbol × Text) := do
  let (whole, rest) ← if text.head? = some '.' then some ([], text) else digits? Char.isDigit text
  let (hasPoint, rest) ←
    match rest with
    | '.' :: more =>
      if more.head?.any Char.isDigit then (digits? Char.isDigit more).map fun (_, rest) => (true, rest)
      else some (true, more)
    | _ => some (false, rest)
  let (hasPower, rest) ← power? rest
  match rest with
  | 'j' :: rest | 'J' :: rest => return (.number false true, rest)
  | _ =>
    if hasPoint || hasPower then return (.number true true, rest)
    -- zeros may stand in front of zero only, and the digits of a whole number are limited
    if whole.all (· = '0') then return (.number true true, rest)
    if whole.head? = some '0' || Number.maxDigits < whole.length then none
    return (.number true (Binary64.fits (Text.decimalNumber whole)), rest)

/-- The number at the beginning of a text, behind which no name may go on. -/
def number? (text : Text) : Option (Symbol × Text) := do
  let (symbol, rest) ←
    match text with
    | '0' :: 'x' :: rest | '0' :: 'X' :: rest => based? 16 Text.isHexDigit rest
    | '0' :: 'o' :: rest | '0' :: 'O' :: rest => based? 8 (fun c => '0' ≤ c && c ≤ '7') rest
    | '0' :: 'b' :: rest | '0' :: 'B' :: rest => based? 2 (fun c => c = '0' || c = '1') rest
    | _ => decimal? text
  if rest.head?.any isNameChar then none else some (symbol, rest)

/-- The text up to the closing quotation mark, which may be threefold, and the text behind it. -/
def quoted? (quote : Char) (isTriple : Bool) : Text → Option (Text × Text)
  | [] => none
  | '\\' :: c :: rest => (quoted? quote isTriple rest).map fun (part, rest) => ('\\' :: c :: part, rest)
  | c :: rest =>
    if c = quote && (!isTriple || Text.isPrefix [quote, quote] rest) then
      some ([], if isTriple then rest.drop 2 else rest)
    else if c = '\n' && !isTriple then none
    else (quoted? quote isTriple rest).map fun (part, rest) => (c :: part, rest)

/-- Whether the text begins with so many hexadecimal digits, whose number is below the limit. -/
def startsCode (width limit : Nat) (text : Text) : Bool :=
  let digits := text.take width
  digits.length = width && digits.all Text.isHexDigit && Text.hexNumber digits < limit

/-- Whether a name of a character in braces stands at the beginning. -/
def startsCharacterName : Text → Bool
  | c :: rest =>
    c = Text.openBrace &&
      match Text.cut Text.closeBrace rest with
      | (name, some _) => (Text.namedCharacter? name).isSome
      | (_, none) => false
  | [] => false

/-- Whether everything behind a backslash can be read. -/
def isEscaped (isBytes : Bool) : Text → Bool
  | '\\' :: c :: rest =>
    let isCode :=
      if c = 'x' then startsCode 2 0x100 rest
      else if isBytes then true
      else if c = 'u' then startsCode 4 0x10000 rest
      else if c = 'U' then startsCode 8 0x110000 rest
      else if c = 'N' then startsCharacterName rest
      else true
    isCode && isEscaped isBytes rest
  | _ :: rest => isEscaped isBytes rest
  | [] => true

/-- The text or the bytes behind the letters of their kind; texts with places to fill in are no constants. -/
def string? (letters text : Text) : Option (Symbol × Text) := do
  let kind := Text.lowerAscii letters
  if ["", "r", "u", "b", "br", "rb"].all fun known => kind ≠ known.toList then none
  let quote ← text.head?
  let isBytes := 'b' ∈ kind
  let isTriple := Text.isPrefix [quote, quote, quote] text
  let (content, rest) ← quoted? quote isTriple (text.drop (if isTriple then 3 else 1))
  if isBytes && content.any fun c => 0x80 ≤ c.toNat then none
  if 'r' ∉ kind && !isEscaped isBytes content then none
  return (if isBytes then .bytes else .text, rest)

/-- The characters of other alphabets that are read as the letters of `set`. -/
def setVariants : List Text :=
  [[0x73, 0x17F, 0x2E2, 0x209B, 0xFF53, 0x1D42C, 0x1D460, 0x1D494, 0x1D4C8, 0x1D4FC, 0x1D530, 0x1D564, 0x1D598,
    0x1D5CC, 0x1D600, 0x1D634, 0x1D668, 0x1D69C],
   [0x65, 0x1D49, 0x2091, 0x212F, 0x2147, 0xFF45, 0x1D41E, 0x1D452, 0x1D486, 0x1D4EE, 0x1D522, 0x1D556, 0x1D58A,
    0x1D5BE, 0x1D5F2, 0x1D626, 0x1D65A, 0x1D68E],
   [0x74, 0x1D57, 0x209C, 0xFF54, 0x1D42D, 0x1D461, 0x1D495, 0x1D4C9, 0x1D4FD, 0x1D531, 0x1D565, 0x1D599, 0x1D5CD,
    0x1D601, 0x1D635, 0x1D669, 0x1D69D]].map fun codes => codes.map Char.ofNat

def name? (name : Text) : Option Symbol :=
  if ["True", "False", "None"].any fun word => name = word.toList then some .constant
  else if name.length = 3 && (List.zipWith (fun c variants => variants.contains c) name setVariants).all id then
    some .emptySet
  else none

/-- The brackets may be nested so deep. -/
def maxDepth : Nat := 200

/-- The symbols of a text inside of `depth` brackets. -/
def symbols? : Nat → (depth : Nat) → Text → Option (List Symbol)
  | 0, _, _ => none
  | _ + 1, depth, [] => if depth = 0 then some [] else none
  | fuel + 1, depth, c :: rest =>
    let go (symbol : Symbol) (depth : Nat) (rest : Text) := (symbols? fuel depth rest).map (symbol :: ·)
    let opens (symbol : Symbol) := if depth < maxDepth then go symbol (depth + 1) rest else none
    let closes (symbol : Symbol) := if depth = 0 then none else go symbol (depth - 1) rest
    if c = ' ' || c = '\t' || c = '\x0C' then symbols? fuel depth rest
    else if c = '#' then symbols? fuel depth (rest.dropWhile (· ≠ '\n'))
    else if c = '\n' then if depth = 0 then go .line depth rest else symbols? fuel depth rest
    else if c = '\\' then
      match rest with
      | '\n' :: d :: more => symbols? fuel depth (d :: more)
      | _ => none
    else if c = '(' then opens .openParen
    else if c = ')' then closes .closeParen
    else if c = Text.openBrace then opens .openBrace
    else if c = Text.closeBrace then closes .closeBrace
    else if c = ',' then go .comma depth rest
    else if c = ':' then go .colon depth rest
    else if c = '+' || c = '-' then go .sign depth rest
    else if c.isDigit || (c = '.' && rest.head?.any Char.isDigit) then
      (number? (c :: rest)).bind fun (symbol, rest) => go symbol depth rest
    else if c = '.' then
      if Text.isPrefix ['.', '.'] rest then go .constant depth (rest.drop 2) else none
    else
      let name := (c :: rest).takeWhile isNameChar
      let behind := (c :: rest).drop name.length
      if behind.head? = some '\x27' || behind.head? = some '\x22' then
        (string? name behind).bind fun (symbol, rest) => go symbol depth rest
      else (name? name).bind fun symbol => go symbol depth behind

/-- Whether the first line with a symbol is indented. A backslash at the end of a line holds what stands before
it, and a comment is skipped. -/
def isIndented (held column isComment : Bool) : Text → Bool
  | [] => false
  | c :: rest =>
    if c = '\n' then isIndented false false false rest
    else if isComment then isIndented held column true rest
    else if c = ' ' || c = '\t' then isIndented held true false rest
    else if c = '\x0C' then isIndented held false false rest
    else if c = '#' then isIndented held column true rest
    else
      match c, rest with
      | '\\', '\n' :: rest => isIndented (held || column) column false rest
      | _, _ => held || column

/-! ## Expressions -/

inductive Part where
  | number (isReal fits isSigned : Bool)
  /-- A function that has not been called. -/
  | function
  | value (isHashable : Bool)

/-- Whether the value of a part can be in a set, if it has a value. -/
def Part.hashable? : Part → Option Bool
  | .number .. => some true
  | .function => none
  | .value isHashable => some isHashable

mutual

/-- A part, or a real number with an imaginary one behind a sign. -/
def sum? : Nat → List Symbol → Option (Part × List Symbol)
  | 0, _ => none
  | fuel + 1, symbols => do
    let (left, rest) ← signed? fuel symbols
    match rest with
    | .sign :: rest =>
      let (right, rest) ← signed? fuel rest
      match left, right with
      | .number true true _, .number false _ false => return (.value true, rest)
      | _, _ => none
    | _ => return (left, rest)

def signed? : Nat → List Symbol → Option (Part × List Symbol)
  | 0, _ => none
  | fuel + 1, .sign :: rest => do
    match ← called? fuel rest with
    | (.number isReal fits false, rest) => return (.number isReal fits true, rest)
    | _ => none
  | fuel + 1, symbols => called? fuel symbols

def called? : Nat → List Symbol → Option (Part × List Symbol)
  | 0, _ => none
  | fuel + 1, symbols => do
    match ← part? fuel symbols with
    | (.function, .openParen :: .closeParen :: rest) => return (.value false, rest)
    | found => return found

/-- A part without signs. -/
def part? : Nat → List Symbol → Option (Part × List Symbol)
  | 0, _ => none
  | _ + 1, .number isReal fits :: rest => some (.number isReal fits false, rest)
  | _ + 1, .text :: rest => some (.value true, rest.dropWhile (· = .text))
  | _ + 1, .bytes :: rest => some (.value true, rest.dropWhile (· = .bytes))
  | _ + 1, .constant :: rest => some (.value true, rest)
  | _ + 1, .emptySet :: rest => some (.function, rest)
  | _ + 1, .openParen :: .closeParen :: rest => some (.value true, rest)
  | fuel + 1, .openParen :: rest => do
    let (first, rest) ← sum? fuel rest
    match rest with
    | .closeParen :: rest => return (first, rest)
    | _ =>
      let (areHashable, rest) ← items? .closeParen fuel rest
      return (.value ((← first.hashable?) && areHashable), rest)
  | _ + 1, .openBrace :: .closeBrace :: rest => some (.value false, rest)
  | fuel + 1, .openBrace :: rest => do
    let (first, rest) ← sum? fuel rest
    if (← first.hashable?) = false then none
    match rest with
    | .colon :: rest => return (.value false, ← entries? fuel rest)
    | _ =>
      let (areHashable, rest) ← items? .closeBrace fuel rest
      if areHashable then return (.value false, rest) else none
  | _ + 1, _ => none

/-- The items of a tuple or a set behind the first one up to the closing bracket, and whether all of them can be in a
set. -/
def items? (close : Symbol) : Nat → List Symbol → Option (Bool × List Symbol)
  | 0, _ => none
  | fuel + 1, symbols => do
    match symbols with
    | .comma :: symbol :: rest =>
      if symbol = close then return (true, rest)
      let (item, rest) ← sum? fuel (symbol :: rest)
      let (areHashable, rest) ← items? close fuel rest
      return ((← item.hashable?) && areHashable, rest)
    | symbol :: rest => if symbol = close then return (true, rest) else none
    | [] => none

/-- The entries of a mapping from the value of the first one on. -/
def entries? : Nat → List Symbol → Option (List Symbol)
  | 0, _ => none
  | fuel + 1, symbols => do
    let (value, rest) ← sum? fuel symbols
    let _ ← value.hashable?
    match rest with
    | .closeBrace :: rest | .comma :: .closeBrace :: rest => return rest
    | .comma :: rest =>
      let (key, rest) ← sum? fuel rest
      if (← key.hashable?) = false then none
      match rest with
      | .colon :: rest => entries? fuel rest
      | _ => none
    | _ => none

end

/-- Whether the text is an expression for a constant. Items without parentheses around them are a tuple. -/
def isConstant (text : Text) : Bool :=
  let text := Text.unifyLines text
  let found := do
    -- all symbols stand on one line, before and behind which lines are empty
    let lines ← symbols? (text.length + 1) 0 text
    let symbols := ((lines.dropWhile (· = Symbol.line)).reverse.dropWhile (· = Symbol.line)).reverse
    if symbols.isEmpty then none
    let inside := Symbol.openParen :: (symbols ++ [Symbol.closeParen])
    let (part, rest) ← part? (5 * inside.length) inside
    if rest.isEmpty then part.hashable? else none
  !text.contains '\x00' && !isIndented false false false text && found.isSome

/-- Whether the text, which has no blanks around it, gives an action. -/
def isAction (text : Text) : Bool :=
  let behind := text.dropWhile fun c => Text.isWordChar c || c = '.'
  behind.isEmpty ||
    isConstant
      (if behind.head? = some '(' && behind.getLast? = some ')' && !behind.contains '\n' then behind else text)

end BraceLink.Terminal.Action
