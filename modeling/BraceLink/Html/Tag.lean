import BraceLink.Text.Blank

/-!
# Tags

What counts as a piece of HTML inside text: start and end tags, comments, instructions, declarations and
character data. Every reader gives the text after the piece.
-/

namespace BraceLink.Html

def skipBlanks (text : Text) : Text := text.dropWhile Text.isBlank

/-- Whether the character may begin the name of an attribute. -/
def isAttributeStart (c : Char) : Bool := c.isAlpha || c = '_' || c = ':'

/-- Whether the character may stand in the name of an attribute. -/
def isAttributeChar (c : Char) : Bool := isAttributeStart c || c.isDigit || c = '.' || c = '-'

/-- Whether the character may stand in a value without quotes. -/
def isBareChar (c : Char) : Bool :=
  0x20 < c.toNat && c ∉ ['\x22', '\x27', '=', '<', '>', '\x60']

def afterValue? : Text → Option Text
  | '\x22' :: rest => ((Text.cut '\x22' rest).2)
  | '\x27' :: rest => ((Text.cut '\x27' rest).2)
  | text =>
    let bare := text.takeWhile isBareChar
    if bare.isEmpty then none else some (text.drop bare.length)

/-- The text after an attribute, which begins with blanks. -/
def afterAttribute? (text : Text) : Option Text :=
  let start := skipBlanks text
  if start.length = text.length then none
  else
    match start with
    | c :: _ =>
      if isAttributeStart c then
        let rest := start.dropWhile isAttributeChar
        match skipBlanks rest with
        | '=' :: value => some ((afterValue? (skipBlanks value)).getD rest)
        | _ => some rest
      else none
    | [] => none

/-- The text after as many attributes as there are, at most the given number. -/
def afterAttributes : Nat → Text → Text
  | 0, text => text
  | count + 1, text =>
    match afterAttribute? text with
    | some rest => afterAttributes count rest
    | none => text

/-- Whether the character may stand in the name of a tag. -/
def isTagChar (c : Char) : Bool := c.isAlphanum || c = '-'

def afterStartTag? : Text → Option Text
  | '<' :: c :: rest =>
    if c.isAlpha then
      let rest := rest.dropWhile isTagChar
      match skipBlanks (afterAttributes rest.length rest) with
      | '/' :: '>' :: rest => some rest
      | '>' :: rest => some rest
      | _ => none
    else none
  | _ => none

def afterEndTag? : Text → Option Text
  | '<' :: '/' :: c :: rest =>
    if c.isAlpha then
      match skipBlanks (rest.dropWhile isTagChar) with
      | '>' :: rest => some rest
      | _ => none
    else none
  | _ => none

def afterCommentEnd? : Text → Option Text
  | '-' :: '-' :: '>' :: rest => some rest
  | '-' :: '-' :: _ :: rest => afterCommentEnd? rest
  | ['-', '-'] => none
  | '-' :: _ :: rest => afterCommentEnd? rest
  | ['-'] => none
  | _ :: rest => afterCommentEnd? rest
  | [] => none

def afterComment? (text : Text) : Option Text :=
  match Text.dropPrefix? "<!--" text with
  | some ('>' :: rest) => some rest
  | some ('-' :: '>' :: rest) => some rest
  | some rest => afterCommentEnd? rest
  | none => none

/-- The text after the first place where `part` stands. -/
def after? (part text : Text) : Option Text :=
  (Text.offset? part text).map fun offset => text.drop (offset + part.length)

def afterInstruction? (text : Text) : Option Text :=
  (Text.dropPrefix? "<?" text).bind (after? "?>")

def afterDeclaration? (text : Text) : Option Text :=
  match Text.dropPrefix? "<!" text with
  | some (c :: rest) => if c.isAlpha then after? ">" rest else none
  | _ => none

def afterCharacterData? (text : Text) : Option Text :=
  (Text.dropPrefix? "<![CDATA[" text).bind (after? "]]>")

def afterTag? (text : Text) : Option Text := (afterStartTag? text).or (afterEndTag? text)

def afterPiece? (text : Text) : Option Text :=
  (afterTag? text).or <| (afterComment? text).or <| (afterInstruction? text).or <|
    (afterDeclaration? text).or (afterCharacterData? text)

end BraceLink.Html
