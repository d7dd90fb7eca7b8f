import BraceLink.Classic.Anchor
import BraceLink.Classic.Block
import BraceLink.Classic.Emphasis
import BraceLink.Classic.Mark
import BraceLink.Classic.Target
import BraceLink.Html.ClassicName

/-!
# Parts of lines

The text of an element is read by one rule after another. What a rule finds is put aside, and a mark takes its
place, so that later rules pass over it. Brace tokens are read behind code and escapes and before everything
else.
-/

namespace BraceLink.Classic

/-- Something that has been put aside. -/
inductive Part where
  | text (content : Text)
  | element (e : Element)

/-- What has been put aside. -/
structure Stash where
  parts : List Part := []
  /-- The pieces of HTML. -/
  html : List Text := []

/-- A step of reading lines. -/
abbrev InlineM := StateT Stash (Except Fault)

/-- What a rule says to a place of a text. -/
inductive Hit where
  /-- Nothing begins here. -/
  | miss
  /-- Something begins here, but it is not complete; the search goes on behind so many characters. -/
  | declined (length : Nat)
  /-- The text stays as it is up to the offset. -/
  | passed (stop : Nat)
  /-- A part from here up to the offset. -/
  | found (part : Part) (stop : Nat)

structure Setting where
  resolver : Resolver
  references : References

/-- A place in a text: its offset, the character before it and the text from there on. -/
structure Spot where
  data : Text
  offset : Nat
  before : Option Char
  rest : Text

/-- A rule looks at a place. -/
abbrev Rule := Setting → Spot → InlineM Hit

namespace Stash

def part? (s : Stash) (n : Nat) : Option Part := s.parts[n]?

/-- A text where the parts are put back as plain text. -/
def fillText (s : Stash) (text : Text) : Text :=
  mapMarks inlineStart (fun n =>
    match s.part? n with
    | some (.text content) => content
    | some (.element e) => e.content
    | none => []) text

/-- A text where the parts are put back as HTML; a text that was escaped gets its backslash back. -/
def fillHtml (s : Stash) : Nat → Text → Text
  | 0, text => text
  | depth + 1, text =>
    mapMarks inlineStart (fun n =>
      match s.part? n with
      | some (.text content) => '\\' :: content
      | some (.element e) => fillHtml s depth e.render
      | none => []) text

end Stash

namespace Rule

/-- A rule that depends on the place only. -/
def simple (read : Spot → Hit) : Rule := fun _ spot => pure (read spot)

/-! ## Code and escapes -/

/-- The offset of the first run of exactly so many backticks. -/
def closingRun? (n : Nat) : (offset : Nat) → (before : Option Char) → Text → Option Nat
  | _, _, [] => none
  | offset, before, c :: rest =>
    if before ≠ some '\x60' && (behindMarks? '\x60' n (c :: rest)).isSome then some offset
    else closingRun? n (offset + 1) (some c) rest

/-- Code that is opened by so many backticks or by fewer. -/
def codeSpan? (text : Text) : Nat → Option (Text × Nat)
  | 0 => none
  | n + 1 =>
    let inner := text.drop (n + 1)
    match closingRun? (n + 1) 1 inner.head? (inner.drop 1) with
    | some length => some (inner.take length, n + 1 + length + n + 1)
    | none => codeSpan? text n

/-- Code between backticks, or pairs of backslashes before a backtick. -/
def code : Rule := simple fun spot =>
  if spot.before = some '\\' then .miss
  else
    match spot.rest with
    | '\\' :: _ =>
      let slashes := (spot.rest.takeWhile (· = '\\')).length
      if slashes % 2 = 0 && (spot.rest.drop slashes).head? = some '\x60' then
        let shown := (List.replicate (slashes / 2) (charMark '\\')).flatten
        .found (.text shown) (spot.offset + slashes)
      else .miss
    | '\x60' :: _ =>
      match codeSpan? spot.rest (spot.rest.takeWhile (· = '\x60')).length with
      | some (content, length) =>
        .found (.element { tag := "code", text := .ofFixed (escapeCode (Text.strip content)) })
          (spot.offset + length)
      | none => .miss
    | _ => .miss

/-- The characters that a backslash protects. -/
def protectable : Text := "\\\x60*_\x7B\x7D[]()>#+-.!"

def escape : Rule := simple fun spot =>
  match spot.rest with
  | '\\' :: c :: _ =>
    if c ∈ protectable then .found (.text (charMark c)) (spot.offset + 2)
    else .passed (spot.offset + 2)
  | _ => .miss

/-! ## Brace tokens -/

/-- A brace token that resolves. -/
def magic : Rule := fun setting spot =>
  if spot.rest.head? = some Text.openBrace then
    match anchorAt setting.resolver spot.data spot.offset with
    | .error (.handler fault) => throw fault
    | .error (.offset _) | .ok none => pure (.declined 1)
    | .ok (some found) => pure (.found (.element found.element) found.stop.toNat)
  else pure .miss

/-! ## Links and images -/

/-- Where the text of a link or of an image begins. -/
def opened? (image : Bool) (spot : Spot) : Option Nat :=
  match image, spot.rest with
  | true, '!' :: '[' :: _ => some 2
  | false, '[' :: _ => if spot.before = some '!' then none else some 1
  | _, _ => none

def linkElement (image : Bool) (link : Text) (title : Option Text) (text : Text) (s : Stash) :
    Element :=
  let titled : List (Text × Text) :=
    match title with
    | some title => [("title", title)]
    | none => []
  if image then
    { tag := "img", attrs := ("src".toList, link) :: titled ++ [("alt".toList, s.fillText text)] }
  else { tag := "a", attrs := ("href".toList, link) :: titled, text := .plain text }

/-- A title without blanks around it and without quotes of its own. -/
def cleanTitle (s : Stash) (title : Text) : Text :=
  let title := s.fillText (Text.strip title)
  let quote := title.head?
  let inner :=
    if (quote = some '\x22' || quote = some '\x27') && title.getLast? = quote then
      (title.drop 1).dropLast
    else title
  inner.map fun c => if Text.isBlank c then ' ' else c

/-- A link or an image whose target follows its text. -/
def link (image : Bool) : Rule := fun _ spot => do
  match opened? image spot with
  | none => return .miss
  | some width =>
    match bracketed? 0 (spot.rest.drop width) with
    | none => return .declined width
    | some (text, stop) =>
      match target? (spot.rest.drop (width + stop)) with
      | none => return .declined width
      | some found =>
        let s ← get
        let target := Text.strip (s.fillText found.link)
        let e := linkElement image target (found.title.map (cleanTitle s)) text s
        return .found (.element e) (spot.offset + width + stop + found.stop)

/-- Runs of blanks as single spaces. -/
def joinBlanks : (inBlank : Bool) → Text → Text
  | _, [] => []
  | inBlank, c :: rest =>
    if Text.isBlank c then if inBlank then joinBlanks true rest else ' ' :: joinBlanks true rest
    else c :: joinBlanks false rest

/-- The name behind the text of a link, between brackets of its own, and the offset behind it. -/
def secondName? (text : Text) : Option (Text × Nat) :=
  let rest :=
    match text with
    | c :: more => if Text.isBlank c then more else text
    | [] => []
  match rest with
  | '[' :: inner =>
    match Text.cut ']' inner with
    | (name, some _) => some (name, text.length - rest.length + name.length + 2)
    | _ => none
  | _ => none

/-- A link or an image whose target is given by a definition; a short one is named by its text. -/
def reference (image short : Bool) : Rule := fun setting spot => do
  match opened? image spot with
  | none => return .miss
  | some width =>
    match bracketed? 0 (spot.rest.drop width) with
    | none => return .declined width
    | some (text, stop) =>
      let named := if short then some (text, 0) else secondName? (spot.rest.drop (width + stop))
      match named with
      | none => return .declined width
      | some (name, more) =>
        let name := joinBlanks false (Text.lower (if name.isEmpty then text else name))
        let stop := spot.offset + width + stop + more
        match setting.references.lookup name with
        | none => return .passed stop
        | some target =>
          return .found (.element (linkElement image target.link target.title text (← get))) stop

/-- What stands between angles at the beginning of a text. -/
def angled? (text : Text) : Option Text :=
  match text with
  | '<' :: rest =>
    let body := rest.takeWhile fun c => c ≠ '<' && c ≠ '>'
    if (rest.drop body.length).head? = some '>' then some body else none
  | _ => none

/-- The beginnings of addresses that are links on their own. -/
def schemes : List Text := ["http://", "https://", "ftp://", "ftps://"]

/-- An address between angles. -/
def autolink : Rule := fun _ spot => do
  match angled? spot.rest with
  | none => return .miss
  | some body =>
    if schemes.any fun scheme => Text.isPrefix scheme (Text.lowerAscii body) then
      let e : Element :=
        { tag := "a", attrs := [("href", (← get).fillText body)], text := .ofFixed body }
      return .found (.element e) (spot.offset + body.length + 2)
    else return .miss

/-- A character as a reference that stays as it is. -/
def hiddenChar (c : Char) : Text := ampersandMark ++ '#' :: Text.ofNat c.toNat ++ [';']

def namedChar (c : Char) : Text :=
  match Html.classicName? c with
  | some name => ampersandMark ++ name ++ [';']
  | none => hiddenChar c

/-- A mail address between angles, which is hidden from simple readers. -/
def automail : Rule := fun _ spot => do
  match angled? spot.rest with
  | none => return .miss
  | some body =>
    match Text.cutLast '@' body with
    | (some user, host) =>
      if user.isEmpty || host.isEmpty || ' ' ∈ body || '!' ∈ user then return .miss
      else
        let written := (← get).fillText body
        let address := (Text.dropPrefix? "mailto:" written).getD written
        let e : Element :=
          { tag := "a"
            attrs := [("href", ("mailto:".toList ++ address).flatMap hiddenChar)]
            text := .ofFixed (address.flatMap namedChar) }
        return .found (.element e) (spot.offset + body.length + 2)
    | (none, _) => return .miss

/-! ## Line ends, HTML and emphasis -/

/-- A line end behind two spaces. -/
def lineBreak : Rule := simple fun spot =>
  match spot.rest with
  | ' ' :: ' ' :: '\n' :: _ => .found (.element { tag := "br" }) (spot.offset + 3)
  | _ => .miss

/-- Puts a piece of HTML aside. -/
def storeHtml (raw : Text) (stop : Nat) : InlineM Hit := do
  let s ← get
  let html := unmarkChars (s.fillHtml (s.parts.length + 1) raw)
  set { s with html := s.html ++ [html] }
  return .found (.text (htmlMark s.html.length)) stop

/-- The length of the tag or comment at the beginning of a text. -/
def tagLength? (text : Text) : Option Nat :=
  match text with
  | '<' :: '!' :: '-' :: '-' :: rest =>
    match Text.offset? "-->" rest with
    | some n => if Text.has "<!--" (rest.take (n + 3)) then none else some (n + 7)
    | none => none
  | '<' :: rest =>
    match angled? text with
    | none => none
    | some body =>
      let name := if rest.head? = some '/' then rest.drop 1 else rest
      if name.head?.any Char.isAlpha && '@' ∉ body.takeWhile (· ≠ ' ') then
        some (body.length + 2)
      else none
  | _ => none

def html : Rule := fun _ spot =>
  match tagLength? spot.rest with
  | some length => storeHtml (spot.rest.take length) (spot.offset + length)
  | none => pure .miss

def entity : Rule := fun _ spot =>
  match spot.rest with
  | '&' :: rest =>
    let name := rest.takeWhile (· ≠ ';')
    let isWritten :=
      match name with
      | '#' :: 'x' :: digits => !digits.isEmpty && digits.all Text.isHexDigit
      | '#' :: digits => !digits.isEmpty && digits.all Char.isDigit
      | name => !name.isEmpty && name.all Char.isAlphanum
    if isWritten && name.length < rest.length then
      storeHtml ('&' :: name ++ [';']) (spot.offset + name.length + 2)
    else pure .miss
  | _ => pure .miss

/-- Marks of emphasis that stand alone. -/
def loneMarks : Rule := simple fun spot =>
  match spot.rest with
  | c :: _ =>
    if c = '*' || c = '_' then
      let run := spot.rest.takeWhile (· = c)
      let after := (spot.rest.drop run.length).head?
      let isAlone := (spot.before.map Text.isBlank).getD true && (after.map Text.isBlank).getD true
      if run.length ≤ 3 && isAlone then .found (.text run) (spot.offset + run.length) else .miss
    else .miss
  | [] => .miss

def emphasis (symbol : Char) : Rule := simple fun spot =>
  if spot.rest.head? = some symbol then
    match emphasisAt? symbol spot.before spot.rest with
    | some (e, rest) => .found (.element e) (spot.offset + (spot.rest.length - rest.length))
    | none => .declined 1
  else .miss

def all : List Rule :=
  [code, escape, magic, reference false false, link false, link true, reference true false,
    reference false true, reference true true, autolink, automail, lineBreak, html, entity, loneMarks,
    emphasis '*', emphasis '_']

end Rule

/-- The first part that a rule finds from a place on, with its place. -/
inductive FoundPart where
  | none
  | passed (stop : Nat)
  | found (part : Part) (start stop : Nat)

/-- Looks for something that the rule reads; `skip` characters are passed over first. -/
def search (setting : Setting) (rule : Rule) (data : Text) :
    (offset skip : Nat) → (before : Option Char) → Text → InlineM FoundPart
  | _, _, _, [] => pure .none
  | offset, skip + 1, _, c :: rest => search setting rule data (offset + 1) skip (some c) rest
  | offset, 0, before, c :: rest => do
    match ← rule setting { data, offset, before, rest := c :: rest } with
    | .miss => search setting rule data (offset + 1) 0 (some c) rest
    | .declined length => search setting rule data (offset + 1) (length - 1) (some c) rest
    | .passed stop => return .passed stop
    | .found part stop => return .found part offset stop

/-- Puts a part aside and gives its mark. -/
def stash (part : Part) : InlineM Text := do
  let s ← get
  set { s with parts := s.parts ++ [part] }
  return inlineMark s.parts.length

/-- Reads the children of an element in a step. -/
def mapChildrenM (f : Element × Fragment → InlineM (Element × Fragment)) (e : Element) :
    InlineM Element := do
  return { e with children := ← e.children.mapM f }

/-- Reads a text by one rule after another, from the offset on; what the rules find is put aside. -/
def readInline (setting : Setting) : Nat → List Rule → (start : Nat) → Text → InlineM Text
  | 0, _, _, data => pure data
  | _ + 1, [], _, data => pure data
  | fuel + 1, rule :: rules, start, data => do
    match ← search setting rule data 0 start none data with
    | .none => readInline setting fuel rules 0 data
    | .passed stop => readInline setting fuel (rule :: rules) stop data
    | .found part start stop =>
      let read (rules : List Rule) (fragment : Fragment) : InlineM Fragment := do
        if fragment.fixed || fragment.isEmpty then return fragment
        else return .plain (← readInline setting fuel rules 0 fragment.text)
      let part ←
        match part with
        | .text content => pure (Part.text content)
        | .element e =>
          if e.text.fixed then pure (Part.element e)
          else do
            let text ← read rules e.text
            let e ← mapChildrenM (fun (child, tail) => do
              let text ← read rules child.text
              return ({ child with text }, ← read (rule :: rules) tail)) { e with text }
            pure (Part.element e)
      let mark ← stash part
      readInline setting fuel (rule :: rules) (start + mark.length)
        (data.take start ++ mark ++ data.drop stop)

def readLine (setting : Setting) (data : Text) : InlineM Text :=
  readInline setting (20 * (data.length + 2) * (data.length + 2)) Rule.all 0 data

end BraceLink.Classic
