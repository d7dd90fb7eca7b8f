import BraceLink.Terminal.Action
import BraceLink.Terminal.Emoji
import BraceLink.Terminal.Style
import BraceLink.Terminal.Wrap

/-!
# Marked text

Marks in brackets give the text between them a style: `[bold]` begins one, `[/bold]` ends it, and `[/]`
ends the last one. A mark begins with a small letter, `#`, `/` or `@`; other brackets are text. A
backslash in front of a mark makes it text, and two backslashes there stand for one. The terminal has no
colours, so a marked text is shown without its marks.

* `Markup.escape`: a text as marked text that shows it.
* `Markup.read`: what a marked text shows.
-/

namespace BraceLink.Terminal.Markup

/-- Why a text cannot be shown. -/
inductive Error where
  /-- A mark ends a style that has not begun. -/
  | nothingToEnd
  /-- The action of a mark cannot be read. -/
  | badAction
  /-- A share of a colour is no number. -/
  | noShare
  deriving DecidableEq, Repr

def canBegin (c : Char) : Bool := ('a' ≤ c && c ≤ 'z') || c = '#' || c = '/' || c = '@'

/-- The rest of a mark up to its closing bracket, and the text behind it. -/
def markEnd? : Text → Option (Text × Text)
  | [] => none
  | c :: rest =>
    if c = ']' then some ([], rest)
    else if c = '[' then none
    else (markEnd? rest).map fun (content, rest) => (c :: content, rest)

/-- The mark at the beginning of a text behind a bracket, and the text behind the mark. -/
def mark? : Text → Option (Text × Text)
  | [] => none
  | c :: rest =>
    if canBegin c then (markEnd? rest).map fun (content, rest) => (c :: content, rest) else none

theorem length_of_markEnd? {text content rest : Text} (h : markEnd? text = some (content, rest)) :
    rest.length < text.length := by
  induction text generalizing content with
  | nil => simp [markEnd?] at h
  | cons c more ih =>
    simp only [markEnd?] at h
    split at h
    · simp at h; simp [h.2]
    · split at h
      · simp at h
      · obtain ⟨⟨before, after⟩, found, same⟩ := Option.map_eq_some_iff.1 h
        simp only [Prod.mk.injEq] at same
        obtain ⟨-, rfl⟩ := same
        have := ih found
        simp only [List.length_cons]
        omega

theorem length_of_mark? {text content rest : Text} (h : mark? text = some (content, rest)) :
    rest.length < text.length := by
  cases text with
  | nil => simp [mark?] at h
  | cons c more =>
    simp only [mark?] at h
    split at h
    · obtain ⟨⟨before, after⟩, found, same⟩ := Option.map_eq_some_iff.1 h
      simp only [Prod.mk.injEq] at same
      obtain ⟨-, rfl⟩ := same
      have := length_of_markEnd? found
      simp only [List.length_cons]
      omega
    · simp at h

/-- A part of a marked text. -/
inductive Piece where
  | plain (text : Text)
  /-- A mark by its content, with backslashes in front of it. -/
  | mark (backslashes : Nat) (content : Text)
  deriving DecidableEq, Repr

/-- The pieces of a marked text; `plain` is the text in front of it in reverse order, and `slashes` are
the backslashes behind that. -/
def piecesAfter (plain : Text) (slashes : Nat) : Text → List Piece
  | [] =>
    let last := List.replicate slashes '\\' ++ plain
    if last.isEmpty then [] else [.plain last.reverse]
  | c :: rest =>
    if c = '\\' then piecesAfter plain (slashes + 1) rest
    else
      match _h : (if c = '[' then mark? rest else none) with
      | some (content, after) =>
        let before := if plain.isEmpty then [] else [.plain plain.reverse]
        before ++ .mark slashes content :: piecesAfter [] 0 after
      | none => piecesAfter (c :: (List.replicate slashes '\\' ++ plain)) 0 rest
termination_by text => text.length
decreasing_by
  · simp
  · have : rest.length > after.length := by
      split at _h
      · exact length_of_mark? _h
      · simp at _h
    simp only [List.length_cons]
    omega
  · simp

def pieces (text : Text) : List Piece := piecesAfter [] 0 text

/-- The marked text of a piece that shows the piece as it stands. -/
def Piece.escape : Piece → Text
  | .plain text => text
  | .mark slashes content => List.replicate (2 * slashes + 1) '\\' ++ '[' :: content ++ [']']

def escape (text : Text) : Text :=
  let marked := (pieces text).flatMap Piece.escape
  let slashes := (marked.reverse.takeWhile (· = '\\')).length
  if slashes = 1 then marked ++ ['\\'] else marked

/-! ## Reading -/

/-- A style that has begun, by its canonical name, with the place where it begins. -/
structure Opened where
  name : Text
  parameters : Option Text
  start : Nat

def Opened.close (mark : Opened) : Except Error Unit :=
  match mark.name, mark.parameters with
  | '@' :: _, some parameters =>
    if Action.isAction (Text.strip parameters) then .ok () else .error .badAction
  | _, _ => .ok ()

/-- The stretch of a style up to a place, if the style has a share that is no number. It is only read where it is
shown. -/
def Opened.faults (mark : Opened) (stop : Nat) : List Stretch :=
  match mark.parameters with
  | none => []
  | some parameters =>
    match Style.read (mark.name ++ [' '] ++ parameters) with
    | .error .noShare => [(mark.start, stop)]
    | _ => []

/-- Takes the last style of the name out of those that have begun, the last one first. -/
def takeOpened (name : Text) : List Opened → Option (Opened × List Opened)
  | [] => none
  | mark :: rest =>
    if mark.name = name then some (mark, rest)
    else (takeOpened name rest).map fun (found, rest) => (found, mark :: rest)

def canonical (name : Text) : Except Error Text :=
  (Style.canonical name).mapError fun _ => .noShare

/-- The styles that have begun after a mark at a place, and the style that it ends. -/
def applyMark (place : Nat) (opened : List Opened) (content : Text) :
    Except Error (List Opened × Option Opened) := do
  let (name, parameters) := Text.cut '=' content
  match name with
  | '/' :: name =>
    let name := Text.strip name
    let found ←
      if name.isEmpty then pure opened.head?
      else pure ((takeOpened (← canonical name) opened).map Prod.fst)
    match found with
    | none => throw .nothingToEnd
    | some mark =>
      mark.close
      if name.isEmpty then return (opened.tail, some mark)
      else return (((takeOpened mark.name opened).map Prod.snd).getD opened, some mark)
  | _ => return ({ name := ← canonical name, parameters, start := place } :: opened, none)

/-- The controls that no terminal is sent. -/
def isDropped (c : Char) : Bool :=
  c = '\x07' || c = '\x08' || c = '\x0B' || c = '\x0C' || c = '\r'

def showPlain (text : Text) : Text :=
  (replaceEmoji (Text.replaceAll "\\[" "[" text)).filter fun c => !isDropped c

/-- What a marked text shows, and the stretches of it whose style has a share that is no number. -/
structure Marked where
  text : Text
  faults : List Stretch

/-- The marked text behind another text without styles. -/
def Marked.behind (before : Text) (marked : Marked) : Marked := { marked with text := before ++ marked.text }

/-- What the pieces show from a place on, after the styles that have begun. -/
def showPieces (place : Nat) (opened : List Opened) : List Piece → Except Error Marked
  | [] => .ok { text := [], faults := opened.flatMap fun mark => mark.faults place }
  | .plain text :: rest =>
    let shown := showPlain text
    (showPieces (place + shown.length) opened rest).map (·.behind shown)
  | .mark slashes content :: rest =>
    let before := List.replicate (slashes / 2) '\\'
    if slashes % 2 = 1 then
      let shown := before ++ showPlain ('[' :: content ++ [']'])
      (showPieces (place + shown.length) opened rest).map (·.behind shown)
    else
      let place := place + before.length
      match applyMark place opened content with
      | .error error => .error error
      | .ok (opened, ended) =>
        (showPieces place opened rest).map fun marked =>
          { text := before ++ marked.text
            faults := ended.toList.flatMap (fun mark => mark.faults place) ++ marked.faults }

def marked (text : Text) : Except Error Marked := showPieces 0 [] (pieces text)

def read (text : Text) : Except Error Text := (marked text).map Marked.text

/-- Whether a style that cannot be read is seen where the text fills lines of the width. -/
def Marked.isFaulty (width : Nat) (marked : Marked) : Bool := marked.faults.any (keeps width marked.text)

end BraceLink.Terminal.Markup
