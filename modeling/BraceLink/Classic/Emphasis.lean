import BraceLink.Classic.Element
import BraceLink.Text.WordChar

/-!
# Emphasis

Emphasis is written with asterisks or low lines around a text. There are five forms, from the one with two kinds
of emphasis in one run of marks to simple emphasis, and the first that fits is taken. Low lines have to stand
at the ends of words. Inside of a form only the forms behind it are looked for.
-/

namespace BraceLink.Classic

/-- The forms of emphasis, in the order in which they are tried. -/
inductive Form where
  /-- `***strong and weak* strong**` -/
  | weakInStrong
  /-- `***both** weak*` -/
  | strongInWeak
  /-- `**strong *both***` -/
  | weakAtEnd
  | strong
  | weak
  deriving DecidableEq, Repr

namespace Form

def all : List Form := [.weakInStrong, .strongInWeak, .weakAtEnd, .strong, .weak]

def later (form : Form) : List Form := (all.dropWhile (· ≠ form)).drop 1

end Form

def isInWord (c : Option Char) : Bool := c.any Text.isWordChar

/-- The text up to the first place from `least` on where the condition holds for the character before and
the rest, and the rest. -/
def splitWhere (p : Option Char → Text → Bool) (least : Nat) (before : Option Char) :
    Text → Option (Text × Text)
  | [] => if least = 0 && p before [] then some ([], []) else none
  | c :: rest =>
    if least = 0 && p before (c :: rest) then some ([], c :: rest)
    else (splitWhere p (least - 1) (some c) rest).map fun (part, after) => (c :: part, after)

/-- An emphasis at the beginning of a text: its form, its first and second part, and the rest. -/
structure FoundEmphasis where
  form : Form
  first : Text
  second : Option Text
  rest : Text

def marks (symbol : Char) (n : Nat) : Text := List.replicate n symbol

/-- The rest behind exactly so many marks. -/
def behindMarks? (symbol : Char) (n : Nat) (text : Text) : Option Text :=
  (Text.dropPrefix? (marks symbol n) text).filter fun rest => rest.head? ≠ some symbol

/-- Two parts, each followed by marks. -/
def twoParts (symbol : Char) (form : Form) (inner outer : Nat) (text : Text) :
    Option FoundEmphasis := do
  let text ← Text.dropPrefix? (marks symbol 3) text
  let starts (n : Nat) (_ : Option Char) (rest : Text) : Bool :=
    Text.isPrefix (marks symbol n) rest
  let (first, rest) ← splitWhere (starts inner) 1 none text
  let (second, rest) ← splitWhere (starts outer) 0 none (rest.drop inner)
  return { form, first, second := some second, rest := rest.drop outer }

def asteriskEmphasis? (form : Form) (text : Text) : Option FoundEmphasis :=
  let starts (n : Nat) (_ : Option Char) (rest : Text) : Bool := Text.isPrefix (marks '*' n) rest
  match form with
  | .weakInStrong => twoParts '*' form 1 2 text
  | .strongInWeak => twoParts '*' form 2 1 text
  | .weakAtEnd => do
    let text ← behindMarks? '*' 2 text
    let first := text.takeWhile (· ≠ '*')
    if first.isEmpty then none
    let text ← behindMarks? '*' 1 (text.drop first.length)
    let (second, rest) ← splitWhere (starts 3) 1 none text
    return { form, first, second := some second, rest := rest.drop 3 }
  | .strong => do
    let text ← Text.dropPrefix? (marks '*' 2) text
    let (first, rest) ← splitWhere (starts 2) 1 none text
    return { form, first, second := none, rest := rest.drop 2 }
  | .weak => do
    let text ← Text.dropPrefix? (marks '*' 1) text
    let first := text.takeWhile (· ≠ '*')
    let rest := text.drop first.length
    if first.isEmpty || rest.isEmpty then none
    return { form, first, second := none, rest := rest.drop 1 }

/-- An emphasis with low lines; `before` is the character before it. -/
def lineEmphasis? (form : Form) (before : Option Char) (text : Text) : Option FoundEmphasis :=
  let closes (n : Nat) (previous : Option Char) (rest : Text) : Bool :=
    match Text.dropPrefix? (marks '_' n) rest with
    | some after => previous ≠ some '_' && !isInWord after.head?
    | none => false
  match form with
  | .weakInStrong => twoParts '_' form 1 2 text
  | .strongInWeak => twoParts '_' form 2 1 text
  | .weakAtEnd => do
    if isInWord before then none
    let text ← behindMarks? '_' 2 text
    let turns (previous : Option Char) (rest : Text) : Bool :=
      !isInWord previous && (behindMarks? '_' 1 rest).isSome
    let ends (_ : Option Char) (rest : Text) : Bool :=
      (Text.dropPrefix? (marks '_' 3) rest).any fun after => !isInWord after.head?
    let (first, rest) ← splitWhere turns 1 (some '_') text
    let (second, rest) ← splitWhere ends 1 none (rest.drop 1)
    return { form, first, second := some second, rest := rest.drop 3 }
  | .strong => do
    if isInWord before then none
    let text ← behindMarks? '_' 2 text
    let (first, rest) ← splitWhere (closes 2) 1 (some '_') text
    return { form, first, second := none, rest := rest.drop 2 }
  | .weak => do
    if isInWord before then none
    let text ← behindMarks? '_' 1 text
    let (first, rest) ← splitWhere (closes 1) 1 (some '_') text
    return { form, first, second := none, rest := rest.drop 1 }

def emphasis? (symbol : Char) (form : Form) (before : Option Char) (text : Text) :
    Option FoundEmphasis :=
  if symbol = '*' then asteriskEmphasis? form text else lineEmphasis? form before text

/-- The content of an element that is being built: the text before the first child, and the children. -/
structure Content where
  text : Text := []
  children : List (Element × Fragment) := []

namespace Content

def addText (c : Content) (text : Text) : Content :=
  if text.isEmpty then c
  else
    match c.children.getLast? with
    | some (child, _) => { c with children := c.children.dropLast ++ [(child, .plain text)] }
    | none => { c with text }

def addChild (c : Content) (child : Element) : Content :=
  { c with children := c.children ++ [(child, .none)] }

def toElement (tag : Text) (c : Content) : Element :=
  { tag, text := .plain c.text, children := c.children }

end Content

def strongTag : Text := "strong"

def weakTag : Text := "em"

mutual

def emphasisElement (symbol : Char) : Nat → FoundEmphasis → Element
  | 0, found => { tag := weakTag, text := .plain found.first }
  | fuel + 1, found =>
    let read := emphasisContent symbol fuel found.form.later
    let second := found.second.getD []
    match found.form with
    | .weakInStrong =>
      let inner := (read {} none [] found.first).toElement weakTag
      (read (Content.addChild {} inner) none [] second).toElement strongTag
    | .strongInWeak =>
      let inner := (read {} none [] found.first).toElement strongTag
      (read (Content.addChild {} inner) none [] second).toElement weakTag
    | .weakAtEnd =>
      let inner := (read {} none [] second).toElement weakTag
      ((read {} none [] found.first).addChild inner).toElement strongTag
    | .strong => (read {} none [] found.first).toElement strongTag
    | .weak => (read {} none [] found.first).toElement weakTag

/-- Adds a text to a content, where the given forms are looked for; `pending` is the text that is not
added yet, in reverse. -/
def emphasisContent (symbol : Char) : Nat → List Form → Content → (before : Option Char) →
    (pending : Text) → Text → Content
  | 0, _, c, _, pending, text => c.addText (pending.reverse ++ text)
  | _ + 1, _, c, _, pending, [] => c.addText pending.reverse
  | fuel + 1, forms, c, before, pending, first :: rest =>
    if first = symbol then
      let try_ (state : Content × Option Char × Text × Text × Bool) (form : Form) :
          Content × Option Char × Text × Text × Bool :=
        let (c, before, pending, text, _) := state
        match emphasis? symbol form before text with
        | none => state
        | some found =>
          let c := (c.addText pending.reverse).addChild (emphasisElement symbol fuel found)
          let last := (text.take (text.length - found.rest.length)).getLast?
          (c, last, [], found.rest, true)
      let (c, before, pending, text, moved) :=
        forms.foldl try_ (c, before, pending, first :: rest, false)
      if moved then emphasisContent symbol fuel forms c before pending text
      else emphasisContent symbol fuel forms c (some first) (first :: pending) rest
    else emphasisContent symbol fuel forms c (some first) (first :: pending) rest

end

/-- The first emphasis that fits at the beginning of a text, as an element with the rest. -/
def emphasisAt? (symbol : Char) (before : Option Char) (text : Text) : Option (Element × Text) :=
  (Form.all.findSome? fun form => emphasis? symbol form before text).map fun found =>
    (emphasisElement symbol (2 * text.length + 2) found, found.rest)

end BraceLink.Classic
