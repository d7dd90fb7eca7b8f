import BraceLink.Classic.Element
import BraceLink.Classic.Mark

/-!
# HTML in documents

Blocks of HTML are put aside before a document is read. A block begins with a tag of a block element at the
beginning of a line and goes on to the tag that closes it; comments, declarations and instructions at the
beginning of a line are blocks as well. All other tags stay where they are.
-/

namespace BraceLink.Classic

/-- The state of putting HTML aside. -/
structure Extraction where
  /-- The parts of the document, the last one first. -/
  parts : List Text := []
  /-- The parts of the block that is open, the last one first. -/
  held : List Text := []
  /-- The blocks that have been put aside, in order. -/
  stored : List Text := []
  /-- The elements that are open inside of the block. -/
  opened : List Text := []
  /-- Whether a block is open. -/
  inBlock : Bool := false
  /-- Whether a block ended on this line. -/
  behindBlock : Bool := false
  /-- What stands on this line so far. -/
  line : Text := []
  /-- The element whose content is no HTML. -/
  verbatim : Option Text := none

def isSpaceChar (c : Char) : Bool := Text.isBlank c

/-- Whether two empty lines begin the text. -/
def startsEmptyLines (text : Text) : Bool :=
  match text.dropWhile (· = ' ') with
  | '\n' :: rest => (rest.dropWhile (· = ' ')).head? = some '\n'
  | _ => false

/-- The text up to the first place where `part` stands, and the text behind it. -/
def cutAt? (part text : Text) : Option (Text × Text) :=
  (Text.offset? part text).map fun n => (text.take n, text.drop (n + part.length))

namespace Extraction

/-- Whether the line has no more than three characters so far, all of them blank. -/
def atLineStart (s : Extraction) : Bool := s.line.length ≤ 3 && s.line.all isSpaceChar

def pass (s : Extraction) (text : Text) : Extraction :=
  match Text.cutLast '\n' text with
  | (none, all) => { s with line := s.line ++ all }
  | (some _, last) => { s with line := last }

def add (s : Extraction) (part : Text) : Extraction := { s with parts := part :: s.parts }

/-- Adds a part of the block. -/
def hold (s : Extraction) (part : Text) : Extraction := { s with held := part :: s.held }

/-- Puts a block aside. -/
def store (s : Extraction) (block : Text) : Extraction :=
  { s.add (htmlMark s.stored.length) with stored := s.stored ++ [block] }

/-- The parts of the block that is open. -/
def heldText (s : Extraction) : Text := s.held.reverse.flatten

/-- Text without tags. -/
def data (s : Extraction) (text : Text) : Extraction :=
  let s := if '\n' ∈ text then { s with behindBlock := false } else s
  (if s.inBlock then s.hold text else s.add text).pass text

/-- A piece that has no content; `shown` is how it is kept, `after` what follows it. -/
def single (s : Extraction) (isBlock : Bool) (shown after : Text) : Extraction :=
  if s.inBlock || s.behindBlock then s.hold shown
  else if s.atLineStart && isBlock then
    let ended := startsEmptyLines after
    let s := if ended then s else { s with behindBlock := true }
    let last := s.parts.headD []
    let s := if Text.isPrefix ['\n'] last.reverse && !Text.isPrefix "\n\n" last.reverse then
        s.add ['\n'] else s
    (s.store (if ended then shown ++ ['\n'] else shown)).add "\n\n"
  else s.add shown

/-- Whether the content of an element is no HTML. -/
def isVerbatim (tag : Text) : Bool := tag = "script".toList || tag = "style".toList

def openTag (s : Extraction) (tag shown after : Text) : Extraction :=
  if tag = "hr".toList then s.single (Element.isBlockTag tag) shown after
  else
    let begins := Element.isBlockTag tag && (s.behindBlock || s.atLineStart) && !s.inBlock
    let s := if begins then { s.add ['\n'] with inBlock := true } else s
    if s.inBlock then
      let s := if isVerbatim tag then { s with verbatim := some tag } else s
      { s.hold shown with opened := tag :: s.opened }
    else { s.add shown with verbatim := none }

def closeTag (s : Extraction) (tag shown after : Text) : Extraction :=
  if s.inBlock then
    let s := s.hold shown
    let opened :=
      if s.opened.contains tag then (s.opened.dropWhile (· ≠ tag)).drop 1 else s.opened
    let s := { s with opened }
    if opened.isEmpty then
      let s := if startsEmptyLines after then s.hold ['\n'] else { s with behindBlock := true }
      let s := { s with inBlock := false }.store s.heldText
      { s.add "\n\n" with held := [] }
    else s
  else s.add shown

end Extraction

/-! ## Tags -/

/-- A tag at the beginning of a text. -/
inductive FoundTag where
  /-- A tag with its text and the text behind it. -/
  | whole (name shown rest : Text) (isSingle : Bool)
  /-- Text that is no tag. -/
  | data (shown rest : Text)

def endsName (c : Char) : Bool :=
  c = '\t' || c = '\n' || c = '\r' || c = '\x0C' || c = ' ' || c = '/' || c = '>' || c = '\x00'

def behindValue? (text : Text) : Option Text :=
  let start := text.dropWhile isSpaceChar
  let equals := start.takeWhile (· = '=')
  if equals.isEmpty then none
  else
    let rest := start.drop equals.length
    let value := rest.dropWhile isSpaceChar
    let after :=
      match value with
      | c :: more =>
        if c = '\x22' || c = '\x27' then
          match (Text.cut c more).2 with
          | some after => some after
          | none => if value.length < rest.length then some rest else none
        else some (value.dropWhile fun d => d ≠ '\x60' && d ≠ '>' && !isSpaceChar d)
      | [] => some []
    after.map skipCommas
where
  /-- The text behind commas. -/
  skipCommas (text : Text) : Text :=
    match text.dropWhile isSpaceChar with
    | ',' :: _ => text.dropWhile fun c => isSpaceChar c || c = ','
    | _ => text

/-- The text behind blanks and slashes; a slash that ends a tag stays. -/
def skipSlashes : Text → Text
  | [] => []
  | c :: rest =>
    if isSpaceChar c || (c = '/' && rest.head? ≠ some '>') then skipSlashes rest else c :: rest

/-- The text behind the attributes of a tag; `separated` tells whether an attribute may begin here. -/
def behindAttributes : Nat → Bool → Text → Text
  | 0, _, text => text
  | fuel + 1, separated, text =>
    match text with
    | [] => []
    | c :: more =>
      if separated && c ≠ '\x60' && c ≠ '/' && c ≠ '>' && !isSpaceChar c then
        let name := more.dropWhile fun d => d ≠ '/' && d ≠ '=' && d ≠ '>' && !isSpaceChar d
        let valued := (behindValue? name).getD name
        let rest := skipSlashes valued
        let last := ((text.take (text.length - rest.length)).getLast?).getD c
        behindAttributes fuel
          (isSpaceChar last || last = '/' || last = '\x22' || last = '\x27') rest
      else text

/-- The tag that opens an element at the beginning of a text. -/
def openTagAt (text : Text) : FoundTag :=
  let name := (text.drop 1).takeWhile fun c => !endsName c
  let word := name.takeWhile (· ≠ '\x60')
  let start := text.drop (1 + word.length)
  let spaced := start.dropWhile fun c => isSpaceChar c || c = '/'
  let bare := start.take (start.length - spaced.length)
  let separated :=
    match bare.getLast? with
    | some _ => true
    | none => word.getLast?.any fun c => c = '\x22' || c = '\x27'
  let behind := behindAttributes spaced.length separated spaced
  let isPlain := behind.length = spaced.length
  let rest := behind.dropWhile isSpaceChar
  let shown (rest : Text) : Text := text.take (text.length - rest.length)
  match rest with
  | '>' :: rest =>
    .whole (Text.lowerAscii name) (shown rest) rest (isPlain && bare.getLast? = some '/')
  | '/' :: '>' :: rest => .whole (Text.lowerAscii name) (shown rest) rest true
  | [] => .data ['<'] (text.drop 1)
  | c :: _ =>
    if c = '/' || c = '=' || c.isAlpha then .data ['<'] (text.drop 1)
    else .data (shown rest) rest

/-- Whether the character can stand in the name of a closed element. -/
def isElementChar (c : Char) : Bool := c.isAlphanum || c = '-' || c = '.' || c = ':' || c = '_'

/-- The name in a tag that closes an element, and whether nothing but the name stands in it. -/
def closedName? (body : Text) : Option (Text × Bool) :=
  let name := (body.dropWhile isSpaceChar).takeWhile isElementChar
  let rest := (body.dropWhile isSpaceChar).drop name.length
  if name.head?.any Char.isAlpha && rest.all isSpaceChar then some (Text.lowerAscii name, true)
  else if body.head?.any Char.isAlpha then
    some (Text.lowerAscii (body.takeWhile fun c => !endsName c), false)
  else none

/-! ## Reading -/

/-- What reading the next piece gives. -/
inductive Progress where
  /-- The state behind the piece, and the text behind it. -/
  | moved (s : Extraction) (rest : Text)
  /-- Something is not complete. -/
  | unfinished (s : Extraction) (rest : Text)
  /-- The rest is text without tags. -/
  | stuck (s : Extraction) (rest : Text)

namespace Extraction

/-- A piece without content behind which the document goes on. -/
def singleAt (s : Extraction) (isBlock : Bool) (shown source after : Text) : Progress :=
  .moved ((s.single isBlock shown after).pass source) after

/-- A tag that closes an element. -/
def readClose (s : Extraction) (text : Text) : Progress :=
  match cutAt? ['>'] (text.drop 2) with
  | none => .unfinished s text
  | some (body, rest) =>
    let shown := '<' :: '/' :: body ++ ['>']
    match closedName? body with
    | some (name, isClean) =>
      if s.verbatim.isSome && (!isClean || s.verbatim ≠ some name) then .moved (s.data shown) rest
      else
        let s := (s.closeTag name shown rest).pass shown
        .moved (if isClean then { s with verbatim := none } else s) rest
    | none =>
      if s.verbatim.isSome then .moved (s.data shown) rest
      else s.singleAt false shown shown rest

def readComment (s : Extraction) (text : Text) : Progress :=
  match cutAt? "-->" (text.drop 4) with
  | some (body, rest) =>
    let shown := "<!--" ++ body ++ "-->"
    s.singleAt true shown shown rest
  | none => .unfinished s text

def readInstruction (s : Extraction) (text : Text) : Progress :=
  if s.atLineStart || s.behindBlock then
    match cutAt? "?>" (text.drop 2) with
    | some (body, rest) =>
      let shown := "<?" ++ body ++ "?>"
      s.singleAt true shown shown rest
    | none => .unfinished s text
  else .moved (s.data "<?") (text.drop 2)

def readDeclaration (s : Extraction) (text : Text) : Progress :=
  if s.atLineStart || s.behindBlock then
    let close : Text := if Text.isPrefix "<![CDATA[" text then "]]>" else ['>']
    let isBlock :=
      Text.isPrefix "<![CDATA[" text || Text.lowerAscii (text.take 9) = "<!doctype".toList
    match cutAt? close (text.drop 2) with
    | some (body, rest) =>
      let shown := "<!" ++ body ++ close
      s.singleAt isBlock shown shown rest
    | none => if Text.isPrefix "<![" text then .moved (s.data ['<']) (text.drop 1) else .unfinished s text
  else .moved (s.data "<!") (text.drop 2)

/-- A reference by number; a missing semicolon is added. -/
def readNumber (s : Extraction) (text : Text) : Progress :=
  let body := text.drop 2
  let digits :=
    match body with
    | x :: rest =>
      if x = 'x' || x = 'X' then
        let hex := rest.takeWhile Text.isHexDigit
        if hex.isEmpty then [] else x :: hex
      else body.takeWhile Char.isDigit
    | [] => []
  match body.drop digits.length with
  | c :: rest =>
    if digits.isEmpty || Text.isHexDigit c then stop s
    else if c = ';' then
      s.singleAt false ("&#" ++ digits ++ [';']) ("&#" ++ digits ++ [';']) rest
    else s.singleAt false ("&#" ++ digits ++ [';']) ("&#" ++ digits) (c :: rest)
  | [] => stop s
where
  /-- No number follows: tags are not looked for any more. -/
  stop (s : Extraction) : Progress :=
    if ';' ∈ text then .stuck (s.data "&#") (text.drop 2) else .stuck s text

def readName (s : Extraction) (text : Text) : Progress :=
  let body := text.drop 1
  let name := body.takeWhile fun c => c.isAlphanum || c = '-' || c = '.'
  if name.head?.any Char.isAlpha && (body.drop name.length).head? = some ';' then
    let shown := '&' :: name ++ [';']
    s.singleAt false shown shown (body.drop (name.length + 1))
  else if body.isEmpty then .stuck s text
  else .moved (s.data ['&']) body

/-- A tag or something else that begins with an angle. -/
def readAngle (s : Extraction) (text : Text) : Progress :=
  match text with
  | '<' :: '/' :: '>' :: rest => .moved (s.data "</>") rest
  | '<' :: '/' :: _ => s.readClose text
  | '<' :: '!' :: '-' :: '-' :: _ => s.readComment text
  | '<' :: '!' :: _ => s.readDeclaration text
  | '<' :: '?' :: _ => s.readInstruction text
  | '<' :: c :: _ =>
    if c.isAlpha then
      match openTagAt text with
      | .whole name shown rest true =>
        .moved ((s.single (Element.isBlockTag name) shown rest).pass shown) rest
      | .whole name shown rest false => .moved ((s.openTag name shown rest).pass shown) rest
      | .data shown rest => .moved (s.data shown) rest
    else .moved (s.data ['<']) (text.drop 1)
  | _ => .stuck s text

/-- Whether the tag that closes an element begins the text. -/
def closesHere (tag text : Text) : Bool :=
  match text with
  | '<' :: '/' :: rest =>
    let body := rest.dropWhile isSpaceChar
    Text.lowerAscii (body.take tag.length) = tag &&
      ((body.drop tag.length).dropWhile isSpaceChar).head? = some '>'
  | _ => false

/-- The text before the next piece, and the text from there on; there is none if the content of an
element is not closed. -/
def toNext? (verbatim : Option Text) : Text → Option (Text × Text)
  | [] => if verbatim.isSome then none else some ([], [])
  | c :: rest =>
    let here :=
      match verbatim with
      | some tag => closesHere tag (c :: rest)
      | none => c = '<' || c = '&'
    if here then some ([], c :: rest)
    else (toNext? verbatim rest).map fun (before, after) => (c :: before, after)

/-- Reads as many pieces as there are; `final` tells that nothing will follow that could complete one. -/
def run (final : Bool) : Nat → Extraction → Text → Extraction × Text
  | 0, s, text => (s, text)
  | fuel + 1, s, text =>
    match toNext? s.verbatim text with
    | none => (s, text)
    | some (before, rest) =>
      let s := if before.isEmpty then s else s.data before
      if rest.isEmpty then (s, [])
      else
        let progress :=
          if rest.head? = some '<' then s.readAngle rest
          else if Text.isPrefix "&#" rest then s.readNumber rest
          else s.readName rest
        match progress with
        | .moved s rest => run final fuel s rest
        | .stuck s rest => (s, rest)
        | .unfinished s rest =>
          if final then
            let shown :=
              match cutAt? ['>'] (rest.drop 1) with
              | some (body, _) => rest.take (body.length + 2)
              | none =>
                match cutAt? ['<'] (rest.drop 1) with
                | some (body, _) => rest.take (body.length + 1)
                | none => rest.take 1
            run final fuel (s.data shown) (rest.drop shown.length)
          else (s, rest)

end Extraction

/-- A document with marks for its blocks of HTML, and these blocks. -/
def extractHtml (text : Text) : Text × List Text :=
  let fuel := text.length + 1
  let (s, rest) := Extraction.run false fuel {} text
  let (s, rest) := Extraction.run true fuel s rest
  let s := if rest.isEmpty then s else s.data rest
  let s := if s.held.isEmpty then s else s.store s.heldText
  (s.parts.reverse.flatten, s.stored)

end BraceLink.Classic
