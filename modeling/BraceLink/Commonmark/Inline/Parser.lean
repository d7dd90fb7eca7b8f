import BraceLink.Commonmark.Inline.Rule

/-!
# Reading paragraphs

At every place the rules are tried in order, and the first one that does not decline reads a piece; if
all decline, the character is text. The fuel bounds how far the reader goes: it goes on behind a character
or into a piece that begins behind it, so the length of the text suffices.
-/

namespace BraceLink.Commonmark

/-- The rules of a dialect with their names, in the order in which they are tried. -/
structure Grammar where
  rules : List (Text × Rule)
  /-- Inside so many elements no rule is tried any more. -/
  maxNesting : Nat := 20

/-- Tries the rules in order. -/
def tryRules (setting : Setting) (reader : Reader) (silent : Bool) :
    List (Text × Rule) → State → Result (Bool × State)
  | [], s => .ok (false, s)
  | (_, rule) :: rest, s => do
    let (done, s) ← rule setting reader silent s
    if done then return (true, s) else tryRules setting reader silent rest s

namespace Grammar

mutual

/-- Moves behind the next piece without adding it. -/
def skip (g : Grammar) (setting : Setting) : Nat → State → Result State
  | 0, s => .ok (s.moveTo (s.pos + 1))
  | fuel + 1, s =>
    match s.skipped.lookup s.pos with
    | some stop => .ok (s.moveTo stop)
    | none => do
      let (done, after) ←
        if s.level < g.maxNesting then do
          let reader := ⟨skip g setting fuel, run g setting fuel, alone g setting fuel⟩
          let (done, after) ← tryRules setting reader true g.rules { s with level := s.level + 1 }
          pure (done, { after with level := s.level })
        else pure (false, s.moveTo s.stop)
      let stop := if done then after.pos else after.pos + 1
      return { after with pos := stop, skipped := (s.pos, stop) :: after.skipped }

/-- Reads up to where reading ends for now. -/
def run (g : Grammar) (setting : Setting) : Nat → State → Result State
  | 0, s => .ok s.flush
  | fuel + 1, s =>
    match (if s.pos < s.stop then s.next? else none) with
    | none => .ok s.flush
    | some c => do
      let reader := ⟨skip g setting fuel, run g setting fuel, alone g setting fuel⟩
      let (done, after) ←
        if s.level < g.maxNesting then tryRules setting reader false g.rules s
        else pure (false, s)
      if done then run g setting fuel after
      else run g setting fuel ((after.addPending [c]).moveTo (s.pos + 1))

/-- Reads a text on its own. -/
def alone (g : Grammar) (setting : Setting) : Nat → Text → Result (List Node)
  | 0, _ => .ok []
  | fuel + 1, text => do
    let s ← run g setting fuel (State.start text)
    return s.resolved

end

def parse (g : Grammar) (setting : Setting) (text : Text) : Result (List Node) :=
  alone g setting (text.length + 2) text

end Grammar

end BraceLink.Commonmark
