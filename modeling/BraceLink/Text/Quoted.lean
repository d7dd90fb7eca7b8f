import BraceLink.Text.Printable

/-!
# Quoted literals

How a text or a byte string is shown in a message: between quotes, with the quote, the backslash and
everything that does not print written as an escape. Single quotes are used unless the content holds
one and holds no double quote.
-/

namespace BraceLink.Text

def singleQuote : Char := Char.ofNat 0x27

def doubleQuote : Char := Char.ofNat 0x22

def enclosingQuote (content : Text) : Char :=
  if singleQuote ∈ content ∧ doubleQuote ∉ content then doubleQuote else singleQuote

/-- A character as it stands between quotes of the given kind. -/
def escapeChar (quote c : Char) : Text :=
  if c = quote ∨ c = '\\' then ['\\', c]
  else if c = '\n' then "\\n"
  else if c = '\r' then "\\r"
  else if c = '\t' then "\\t"
  else if isPrintable c then [c]
  else if c.toNat < 0x100 then "\\x" ++ hex 2 c.toNat
  else if c.toNat < 0x10000 then "\\u" ++ hex 4 c.toNat
  else "\\U" ++ hex 8 c.toNat

def quoted (text : Text) : Text :=
  let quote := enclosingQuote text
  quote :: text.flatMap (escapeChar quote) ++ [quote]

/-- A byte as it stands between quotes of the given kind. -/
def escapeByte (quote : Char) (byte : UInt8) : Text :=
  if 0x20 ≤ byte ∧ byte < 0x7F ∨ byte = 0x09 ∨ byte = 0x0A ∨ byte = 0x0D then
    escapeChar quote (Char.ofNat byte.toNat)
  else "\\x" ++ hex 2 byte.toNat

/-- The literal of a byte string, marked by a leading `b`. -/
def quotedBytes (bytes : List UInt8) : Text :=
  let quote := enclosingQuote (bytes.map fun byte => Char.ofNat byte.toNat)
  'b' :: quote :: bytes.flatMap (escapeByte quote) ++ [quote]

/-- The literal of a text that may be missing. -/
def quotedOption : Option Text → Text
  | none => "None"
  | some text => quoted text

/-- The literals of several texts as a list in square brackets. -/
def quotedList (texts : List Text) : Text :=
  "[" ++ join ", " (texts.map quoted) ++ "]"

end BraceLink.Text
