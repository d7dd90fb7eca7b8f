import BraceLink.Html.Reference
import BraceLink.Table
import BraceLink.Text.Blank
import BraceLink.Text.Lowercase
import BraceLink.Text.Uppercase

/-!
# Parts of links

A link has a destination and may have a title; a definition gives both to a label. The readers give what
they have read and how many characters it took.
-/

namespace BraceLink.Commonmark

/-- The destination and the title of a link. -/
structure Definition where
  href : Text
  title : Text
  deriving DecidableEq, Repr

/-- The label by which a definition is found: blanks are collapsed and case is ignored. -/
def normalLabel (label : Text) : Text :=
  Text.upper (Text.lower (Text.join [' '] (Text.words label)))

def isAllowed (url : Text) : Bool :=
  let url := Text.lower (Text.strip url)
  let begins (start : Text) : Bool := Text.isPrefix start url
  let forbidden := (["vbscript:", "javascript:", "file:", "data:"] : List Text).any begins
  let image := (["gif", "png", "jpeg", "webp"] : List Text).any fun kind =>
    begins ("data:image/" ++ kind ++ ";")
  !forbidden || image

/-- Whether the character is a space or a tab. -/
def isGap (c : Char) : Bool := c = ' ' || c = '\t'

/-- Whether the character is a space, a tab or a line end. -/
def isGapOrEnd (c : Char) : Bool := isGap c || c = '\n'

/-- The length of a destination in angle brackets after the opening one, without the closing one. -/
def bracketedLength? : Text → Option Nat
  | [] => none
  | '>' :: _ => some 0
  | '\n' :: _ | '<' :: _ => none
  | '\\' :: _ :: rest => (bracketedLength? rest).map (· + 2)
  | _ :: rest => (bracketedLength? rest).map (· + 1)

/-- The length of a destination without brackets, inside the given number of open parentheses. -/
def bareLength? (depth : Nat) (text : Text) : Option Nat :=
  match text with
  | [] => if depth = 0 then some 0 else none
  | '\\' :: c :: rest =>
    if c = ' ' then if depth = 0 then some 0 else none
    else (bareLength? depth rest).map (· + 2)
  | c :: rest =>
    if c.toNat ≤ 0x20 || c.toNat = 0x7F then if depth = 0 then some 0 else none
    else if c = '(' then
      if 32 ≤ depth then none else (bareLength? (depth + 1) rest).map (· + 1)
    else if c = ')' then
      match depth with
      | 0 => some 0
      | depth + 1 => (bareLength? depth rest).map (· + 1)
    else (bareLength? depth rest).map (· + 1)

/-- The destination at the beginning of the text, and its length. -/
def destination? (text : Text) : Option (Text × Nat) :=
  match text with
  | '<' :: rest =>
    (bracketedLength? rest).map fun length => (Html.resolveAll (rest.take length), length + 2)
  | _ =>
    match bareLength? 0 text with
    | none | some 0 => none
    | some length => some (Html.resolveAll (text.take length), length)

def titleLength? (close : Char) : Text → Option Nat
  | [] => none
  | '\\' :: _ :: rest => (titleLength? close rest).map (· + 2)
  | c :: rest =>
    if c = close then some 0
    else if c = '(' && close = ')' then none
    else (titleLength? close rest).map (· + 1)

/-- The title at the beginning of the text, and its length. -/
def title? (text : Text) : Option (Text × Nat) :=
  let read (close : Char) (rest : Text) : Option (Text × Nat) :=
    (titleLength? close rest).map fun length => (Html.resolveAll (rest.take length), length + 2)
  match text with
  | '\x22' :: rest => read '\x22' rest
  | '\x27' :: rest => read '\x27' rest
  | '(' :: rest => read ')' rest
  | _ => none

/-- How many characters at the beginning of the text satisfy `p`. -/
def countWhile (p : Char → Bool) (text : Text) : Nat := (text.takeWhile p).length

end BraceLink.Commonmark
