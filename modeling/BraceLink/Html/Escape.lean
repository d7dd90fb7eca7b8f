import BraceLink.Text.Basic

/-!
# Escaping for HTML

Four characters are written as references wherever text is put into HTML. `unescape` reads these four
references back and leaves everything else as it is.
-/

namespace BraceLink.Html

def escapeChar (c : Char) : Text :=
  if c = '&' then "&amp;"
  else if c = '<' then "&lt;"
  else if c = '>' then "&gt;"
  else if c = '\x22' then "&quot;"
  else [c]

def escape (text : Text) : Text := text.flatMap escapeChar

/-- Reads the four references back, from left to right. -/
def unescape : Text → Text
  | [] => []
  | '&' :: 'a' :: 'm' :: 'p' :: ';' :: rest => '&' :: unescape rest
  | '&' :: 'l' :: 't' :: ';' :: rest => '<' :: unescape rest
  | '&' :: 'g' :: 't' :: ';' :: rest => '>' :: unescape rest
  | '&' :: 'q' :: 'u' :: 'o' :: 't' :: ';' :: rest => '\x22' :: unescape rest
  | c :: rest => c :: unescape rest

/-- A start tag, or an empty element if `closed` holds. -/
def startTag (name : Text) (attrs : List (Text × Text)) (closed : Bool := false) : Text :=
  let shown := attrs.flatMap fun attr =>
    ' ' :: escape attr.1 ++ '=' :: '\x22' :: escape attr.2 ++ ['\x22']
  '<' :: name ++ shown ++ (if closed then " />" else ">")

def endTag (name : Text) : Text := '<' :: '/' :: name ++ ['>']

end BraceLink.Html
