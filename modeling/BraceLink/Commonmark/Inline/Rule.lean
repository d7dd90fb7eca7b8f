import BraceLink.Commonmark.Inline.Emphasis
import BraceLink.Commonmark.LinkParts
import BraceLink.Html.Tag
import BraceLink.Url.Normal

/-!
# Rules

A rule looks at the next character. It declines, or it reads a piece and moves behind it. In silent
mode it adds no pieces: then it only says where a piece ends. A rule that declines may have learned
where pieces end that it has skipped, and nothing else of the state changes. Rules may fail, because the
handlers behind one of them may.
-/

namespace BraceLink.Commonmark

abbrev Result := Except Fault

/-- What a rule may ask of the reader that it belongs to. -/
structure Reader where
  /-- Moves behind the next piece without adding it. -/
  skip : State → Result State
  /-- Reads up to where reading ends for now. -/
  run : State → Result State
  /-- Reads a text on its own. -/
  alone : Text → Result (List Node)

/-- What reading depends on beside the text. -/
structure Setting where
  normalize : Text → Text
  definitions : Table Definition := []
  /-- Whether HTML is allowed. -/
  html : Bool := true
  /-- What stands for a surrogate, which is no character. -/
  half : Char := Url.replacement

abbrev Rule := Setting → Reader → Bool → State → Result (Bool × State)

/-- The rule that never fails and needs no reader. -/
def Rule.plain (rule : Setting → Bool → State → Option State) : Rule :=
  fun setting _ silent s =>
    match rule setting silent s with
    | some after => .ok (true, after)
    | none => .ok (false, s)

/-- Adds a piece unless the mode is silent. -/
def State.pushUnless (s : State) (silent : Bool) (node : Node) : State :=
  if silent then s else s.push node

namespace Rule

/-- Whether a piece other than text may begin with the character. -/
def endsText (c : Char) : Bool :=
  c ∈ ['\n', '!', '#', '$', '%', '&', '*', '+', '-', ':', '<', '=', '>', '@', '[', '\\', ']', '^',
    '_', '\x60', Text.openBrace, Text.closeBrace, '~']

/-- Text up to the next character that may begin another piece. -/
def text : Rule := plain fun _ silent s =>
  let run := (s.rest s.pos).takeWhile fun c => !endsText c
  if run.isEmpty then none
  else some ((if silent then s else s.addPending run).moveTo (s.pos + run.length))

/-- A line end; two spaces before it make it a hard one. -/
def newline : Rule := plain fun _ silent s =>
  if s.next? ≠ some '\n' then none
  else
    let broken :=
      if silent then s
      else
        match s.pending.reverse with
        | ' ' :: ' ' :: before =>
          { s with pending := (before.dropWhile (· = ' ')).reverse }.push .hardBreak
        | ' ' :: before => { s with pending := before.reverse }.push .softBreak
        | _ => s.push .softBreak
    let gap := countWhile isGap (s.slice (s.pos + 1) s.stop)
    some (broken.moveTo (s.pos + 1 + gap))

/-- An escaped character, or a hard line end after a backslash. -/
def escape : Rule := plain fun _ silent s =>
  if s.next? ≠ some '\\' || s.stop ≤ s.pos + 1 then none
  else
    match s.char? (s.pos + 1) with
    | none => none
    | some '\n' =>
      let gap := countWhile isGap (s.slice (s.pos + 2) s.stop)
      some ((s.pushUnless silent .hardBreak).moveTo (s.pos + 2 + gap))
    | some c =>
      let shown := if Text.isAsciiPunctuation c then [c] else ['\\', c]
      some ((s.pushUnless silent (.special shown)).moveTo (s.pos + 2))

/-- The content of a code span: line ends become spaces, and one space on both sides is dropped unless
there is nothing else. -/
def codeContent (raw : Text) : Text :=
  let content := raw.map fun c => if c = '\n' then ' ' else c
  if content.head? = some ' ' && content.getLast? = some ' ' && !(Text.strip content).isEmpty then
    (content.drop 1).dropLast
  else content

/-- The offset of the first run of exactly `length` backticks, in a text that follows `before`
backticks. -/
def closingRun? (length before offset : Nat) : Text → Option Nat
  | [] => if before = length then some (offset - before) else none
  | '\x60' :: rest => closingRun? length (before + 1) (offset + 1) rest
  | _ :: rest =>
    if before = length then some (offset - before) else closingRun? length 0 (offset + 1) rest

/-- A code span, or a run of backticks without a partner. -/
def backticks : Rule := plain fun _ silent s =>
  let length := countWhile (· = '\x60') (s.slice s.pos s.stop)
  if length = 0 then none
  else
    let first := s.pos + length
    match closingRun? length 0 0 (s.rest first) with
    | some offset =>
      let content := codeContent (s.slice first (first + offset))
      some ((s.pushUnless silent (.code content)).moveTo (first + offset + length))
    | none =>
      let marks := List.replicate length '\x60'
      some ((if silent then s else s.addPending marks).moveTo first)

/-- A run of emphasis marks. -/
def emphasis : Rule := plain fun _ silent s =>
  match s.next? with
  | some c =>
    if silent || !(c = '*' || c = '_') then none
    else
      let run := s.run c (c = '*')
      some ((s.pushMarks c run).moveTo (s.pos + run.length))
  | none => none

/-- Looks for the bracket that closes a label, `steps` pieces far at most; `level` brackets are open.
In a label that holds no other link, a link ends the search. -/
def findLabelEnd (reader : Reader) (single : Bool) (level : Nat) (s : State) :
    Nat → Result (Option Nat × State)
  | 0 => .ok (none, s)
  | steps + 1 =>
    if s.stop ≤ s.pos then .ok (none, s)
    else if s.next? = some ']' && level ≤ 1 then .ok (some s.pos, s)
    else do
      let opens := s.next? = some '['
      let level := if s.next? = some ']' then level - 1 else level
      let after ← reader.skip s
      if opens && after.pos = s.pos + 1 then findLabelEnd reader single (level + 1) after steps
      else if opens && single then return (none, after)
      else findLabelEnd reader single level after steps

/-- The end of the label whose opening bracket stands at the offset, and the state at the old place. -/
def labelEnd (reader : Reader) (s : State) (start : Nat) (single : Bool := false) :
    Result (Option Nat × State) := do
  let (found, after) ←
    findLabelEnd reader single 1 (s.moveTo (start + 1)) (s.src.length + 1)
  return (found, after.moveTo s.pos)

/-- Skips spaces, tabs and line ends. -/
def skipGaps (s : State) (offset : Nat) : Nat :=
  offset + countWhile isGapOrEnd (s.slice offset s.stop)

/-- A destination and a title in parentheses. -/
structure Inlined where
  href : Text := []
  title : Text := []
  /-- The offset of what should be the closing parenthesis. -/
  stop : Nat
  deriving Repr

/-- The title at the offset, unless nothing separates it from what stands before it. -/
def readTitle (s : State) (before offset : Nat) : Text × Nat :=
  match title? (s.slice offset s.stop) with
  | some (title, length) =>
    if offset < s.stop && before ≠ offset then (title, skipGaps s (offset + length))
    else ([], offset)
  | none => ([], offset)

/-- The destination and the title after an opening parenthesis. Without a destination there is no
title. -/
def readInlined? (setting : Setting) (s : State) (offset : Nat) : Option Inlined :=
  let start := skipGaps s offset
  if s.stop ≤ start then none
  else
    match destination? (s.slice start s.stop) with
    | none => some { stop := start }
    | some (written, length) =>
      let href := setting.normalize written
      let allowed := isAllowed href
      let after := if allowed then start + length else start
      let gap := skipGaps s after
      let (title, stop) := readTitle s after gap
      some { href := if allowed then href else [], title, stop }

/-- The definition that a label stands for: the label after the given offset, or the content of the
brackets. Also the offset behind the reference. -/
def readReference (setting : Setting) (reader : Reader) (s : State) (first last offset : Nat) :
    Result (Option (Definition × Nat) × State) := do
  let (found, s) ←
    if offset < s.stop && s.char? offset = some '[' then labelEnd reader s offset
    else pure (none, s)
  let label :=
    match found with
    | some stop => s.slice (offset + 1) stop
    | none => []
  let stop :=
    match found with
    | some stop => stop + 1
    | none => last + 1
  let label := normalLabel (if label.isEmpty then s.slice first last else label)
  return ((setting.definitions.get? label).map fun definition => (definition, stop), s)

def linkAttrs (name : Text) (href title : Text) (more : List (Text × Text) := []) :
    List (Text × Text) :=
  (name, href) :: more ++ (if title.isEmpty then [] else [("title".toList, title)])

/-- Where the destination and the title of a link come from. -/
inductive Source where
  /-- From parentheses that are well formed; the link ends at the offset. -/
  | inlined (href title : Text) (stop : Nat)
  /-- From a definition, whose label may stand at the offset. -/
  | defined (offset : Nat)
  | nowhere

/-- Where the destination of a link comes from whose label ends at the offset. -/
def sourceAfter (setting : Setting) (s : State) (last : Nat) : Source :=
  if last + 1 < s.stop && s.char? (last + 1) = some '(' then
    match readInlined? setting s (last + 2) with
    | some found =>
      if found.stop < s.stop && s.char? found.stop = some ')' then
        .inlined found.href found.title (found.stop + 1)
      else .defined (found.stop + 1)
    | none => .nowhere
  else .defined (last + 1)

/-- The destination, the title and the end of a link with the given label. -/
def resolveSource (setting : Setting) (reader : Reader) (s : State) (first last : Nat) :
    Source → Result (Option (Definition × Nat) × State)
  | .inlined href title stop => .ok (some (⟨href, title⟩, stop), s)
  | .nowhere => .ok (none, s)
  | .defined offset =>
    if setting.definitions.isEmpty then .ok (none, s)
    else readReference setting reader s first last offset

/-- A link: its text in brackets, then a destination in parentheses or a label. -/
def link : Rule := fun setting reader silent s => do
  if s.next? ≠ some '[' then return (false, s)
  let first := s.pos + 1
  match ← labelEnd reader s s.pos true with
  | (none, s) => return (false, s)
  | (some last, s) =>
    match ← resolveSource setting reader s first last (sourceAfter setting s last) with
    | (none, s) => return (false, s)
    | (some (target, stop), s) =>
      if silent then return (true, s.moveTo stop)
      let inner := { s.pushOpen (.linkOpen (linkAttrs "href" target.href target.title) false) with
        pos := first, stop := last }
      let inner ← reader.run inner
      return (true, { inner.pushClose (.linkClose false) with pos := stop, stop := s.stop })

/-- The source of an image: one with parentheses that are not well formed is no image. -/
def Source.ofImage (source : Source) (last : Nat) : Source :=
  match source with
  | .defined offset => if offset = last + 1 then source else .nowhere
  | other => other

/-- An image: like a link after an exclamation mark. -/
def image : Rule := fun setting reader silent s => do
  if s.next? ≠ some '!' || (s.pos + 1 < s.stop && s.char? (s.pos + 1) ≠ some '[') then
    return (false, s)
  let first := s.pos + 2
  match ← labelEnd reader s (s.pos + 1) with
  | (none, s) => return (false, s)
  | (some last, s) =>
    let source := (sourceAfter setting s last).ofImage last
    match ← resolveSource setting reader s first last source with
    | (none, s) => return (false, s)
    | (some (target, stop), s) =>
      if silent then return (true, s.moveTo stop)
      let content := s.slice first last
      let children ← reader.alone content
      let attrs := linkAttrs "src" target.href target.title [("alt", [])]
      return (true, (s.push (.image attrs content children)).moveTo stop)

/-- Whether the text is an address with a scheme, as it may stand in angle brackets. -/
def isAddress (url : Text) : Bool :=
  let scheme := url.takeWhile fun c => c.isAlphanum || c = '+' || c = '.' || c = '-'
  let isPart (c : Char) : Bool := c ≠ '<' && c ≠ '>' && 0x20 < c.toNat
  match url.drop scheme.length with
  | ':' :: rest =>
    (scheme.head?.map Char.isAlpha).getD false && 2 ≤ scheme.length && scheme.length ≤ 32 &&
      (rest.dropWhile isPart = [] || rest.dropWhile isPart = ['\n'])
  | _ => false

def isMailLabel (label : Text) : Bool :=
  label.length ≤ 63 && (label.head?.map Char.isAlphanum).getD false &&
    (label.getLast?.map Char.isAlphanum).getD false && label.all fun c => c.isAlphanum || c = '-'

/-- Whether the text is a mail address; a line end at its end does not count. -/
def isMailAddress (text : Text) : Bool :=
  let text := if text.getLast? = some '\n' then text.dropLast else text
  let isPart (c : Char) : Bool :=
    c.isAlphanum || c ∈ ".!#$%&'*+/=?^_\x60\x7B|\x7D~-".toList
  let name := text.takeWhile isPart
  match text.drop name.length with
  | '@' :: domain => !name.isEmpty && (Text.splitOn '.' domain).all isMailLabel
  | _ => false

/-- An address in angle brackets. -/
def autolink : Rule := plain fun setting silent s =>
  match s.slice s.pos s.stop with
  | '<' :: rest =>
    let url := rest.takeWhile fun c => c ≠ '<' && c ≠ '>'
    if (rest.drop url.length).head? ≠ some '>' then none
    else
      let written :=
        if isAddress url then some url
        else if isMailAddress url then some ("mailto:" ++ url)
        else none
      match written.map setting.normalize with
      | none => none
      | some href =>
        if !isAllowed href then none
        else
          let pushed :=
            if silent then s
            else
              ((s.pushOpen (.linkOpen [("href", href)] true)).push
                (.text (Url.shown setting.half url))).pushClose (.linkClose true)
          some (pushed.moveTo (s.pos + url.length + 2))
  | _ => none

def html : Rule := plain fun setting silent s =>
  if !setting.html || s.next? ≠ some '<' || s.stop ≤ s.pos + 2 then none
  else
    let rest := s.rest s.pos
    (Html.afterPiece? rest).map fun after =>
      let length := rest.length - after.length
      (s.pushUnless silent (.html (rest.take length))).moveTo (s.pos + length)

def entity : Rule := plain fun _ silent s =>
  if s.next? ≠ some '&' || s.stop ≤ s.pos + 1 then none
  else
    let rest := s.rest s.pos
    (Html.reference? rest).map fun (shown, after) =>
      (s.pushUnless silent (.special shown)).moveTo (s.pos + (rest.length - after.length))

end Rule

end BraceLink.Commonmark
