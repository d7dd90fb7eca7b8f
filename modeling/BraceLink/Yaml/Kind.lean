import BraceLink.Yaml.Moment

/-!
# Kinds of nodes

The tag of a node tells what kind of value it is. A plain scalar without a tag is of the kind that its text
looks like, and otherwise a text.
-/

namespace BraceLink.Yaml

inductive Kind where
  | null
  | bool
  | int
  | float
  | binary
  | moment
  | text
  | sequence
  | mapping
  | set
  /-- A list of pairs, written as a sequence of mappings with one entry each. -/
  | pairs
  /-- The key whose value is merged into the mapping around it. -/
  | merge
  /-- The key of the value that stands for the whole mapping. -/
  | default
  | unknown
  deriving DecidableEq, Repr

namespace Kind

/-- What the tags of known kinds begin with. -/
def tagStart : Text := "tag:yaml.org,2002:"

def ofTag (tag : Text) : Kind :=
  match (Text.dropPrefix? tagStart tag).map String.ofList with
  | some "null" => .null
  | some "bool" => .bool
  | some "int" => .int
  | some "float" => .float
  | some "binary" => .binary
  | some "timestamp" => .moment
  | some "str" => .text
  | some "seq" => .sequence
  | some "map" => .mapping
  | some "set" => .set
  | some "omap" | some "pairs" => .pairs
  | some "merge" => .merge
  | some "value" => .default
  | _ => .unknown

/-- Whether a value of the kind holds other values. -/
def isCollection : Kind → Bool
  | .sequence | .mapping | .set | .pairs => true
  | _ => false

def isSingle : Kind → Bool
  | .null | .bool | .int | .float | .binary | .moment | .text => true
  | _ => false

/-! ## The look of scalars -/

/-- The words for truth values. -/
def truths : List (Text × Bool) :=
  [("yes", true), ("no", false), ("true", true), ("false", false), ("on", true), ("off", false)].map
    fun entry => (entry.1.toList, entry.2)

/-- A word with a capital at its beginning. -/
def capitalized : Text → Text
  | [] => []
  | c :: rest => c.toUpper :: rest

/-- Whether the text is one of the words, in small letters, in capitals or with one capital. -/
def isWord (words : List Text) (text : Text) : Bool :=
  words.any fun word => text = word || text = capitalized word || text = word.map Char.toUpper

def withoutSign : Text → Text
  | '+' :: rest | '-' :: rest => rest
  | unsigned => unsigned

/-- Whether a low line or a character that satisfies the condition stands at every place, and at one
place at least. -/
def isRun (p : Char → Bool) (text : Text) : Bool :=
  !text.isEmpty && text.all fun c => p c || c = '_'

/-- Whether the character is a digit below eight. -/
def isOctal (c : Char) : Bool := '0' ≤ c && c ≤ '7'

/-- Whether the text is a number below sixty. -/
def isSixtieth : Text → Bool
  | [a] => a.isDigit
  | [a, b] => '0' ≤ a && a ≤ '5' && b.isDigit
  | _ => false

/-- Whether the text begins with a digit and has only digits and low lines. -/
def isNatural (text : Text) : Bool := text.head?.any Char.isDigit && isRun Char.isDigit text

/-- Whether the text looks like a whole number. -/
def looksInt (text : Text) : Bool :=
  match withoutSign text with
  | '0' :: 'b' :: rest => isRun (fun c => c = '0' || c = '1') rest
  | '0' :: 'x' :: rest => isRun Text.isHexDigit rest
  | '0' :: rest => rest.isEmpty || isRun isOctal rest
  | digits =>
    match Text.splitOn ':' digits with
    | [] => false
    | first :: rest => isNatural first && rest.all isSixtieth

/-- Whether the text is a power of ten at the end of a number. -/
def isPower : Text → Bool
  | [] => true
  | letter :: sign :: digits =>
    (letter = 'e' || letter = 'E') && (sign = '+' || sign = '-') && !digits.isEmpty &&
      digits.all Char.isDigit
  | _ => false

/-- Whether the text is a fraction behind a point, perhaps with a power of ten. -/
def isFraction (text : Text) : Bool :=
  isPower (text.dropWhile fun c => c.isDigit || c = '_')

def isInfinity (text : Text) : Bool :=
  text = ".inf".toList || text = ".Inf".toList || text = ".INF".toList

/-- Whether the text is the word for an undefined number. -/
def isUndefined (text : Text) : Bool :=
  text = ".nan".toList || text = ".NaN".toList || text = ".NAN".toList

/-- Whether the text looks like a number with a fraction. -/
def looksFloat (text : Text) : Bool :=
  match text with
  | '.' :: first :: rest =>
    (first.isDigit && isFraction rest) || isInfinity text || isUndefined text
  | _ =>
    isInfinity (withoutSign text) ||
      match Text.cut '.' (withoutSign text) with
      | (_, none) => false
      | (whole, some fraction) =>
        match Text.splitOn ':' whole with
        | [] => false
        | [digits] => isNatural digits && isFraction fraction
        | first :: rest =>
          isNatural first && rest.all isSixtieth && fraction.all fun c => c.isDigit || c = '_'

/-- Whether the text looks like a date or a moment. -/
def looksMoment (text : Text) : Bool :=
  match WrittenMoment.read? text with
  | some written => written.clock.isSome || text.length = 10
  | none => false

/-- A text without a line feed at its end. -/
def withoutBreak (text : Text) : Text :=
  if text.getLast? = some '\n' then text.dropLast else text

/-- The kind that a plain scalar looks like. -/
def ofPlain (content : Text) : Kind :=
  let text := withoutBreak content
  if isWord (truths.map Prod.fst) text then .bool
  else if looksFloat text then .float
  else if looksInt text then .int
  else if text = "<<".toList then .merge
  else if content.isEmpty || text = ['~'] || isWord ["null".toList] text then .null
  else if looksMoment text then .moment
  else if text = ['='] then .default
  else if text = ['!'] || text = ['&'] || text = ['*'] then .unknown
  else .text

end Kind

end BraceLink.Yaml
