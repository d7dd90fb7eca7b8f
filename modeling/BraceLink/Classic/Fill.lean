import BraceLink.Classic.Inline

/-!
# Putting parts back

A mark in a text becomes the part that it stands for: a text joins the text around it, and an element becomes a
child. Then the text of the children is read in turn, unless it is fixed.
-/

namespace BraceLink.Classic

/-- A text with the elements in it: the text before the first one, and each with the text behind it. -/
structure Filled where
  lead : Fragment := .none
  children : List (Element × Fragment) := []

namespace Filled

def addText (f : Filled) (more : Fragment) : Filled :=
  match f.children.getLast? with
  | some (child, tail) =>
    { f with children := f.children.dropLast ++ [(child, tail.append more)] }
  | none => { f with lead := f.lead.append more }

def addChild (f : Filled) (e : Element) : Filled :=
  { f with children := f.children ++ [(e, .none)] }

end Filled

namespace Stash

/-- Puts the parts back into a text; `settle` puts parts back into an element. What stands behind the last
mark of a fixed text stays fixed. -/
def fillWith (s : Stash) (settle : Element → Element) (fixed : Bool) :
    Filled → List (Text ⊕ Nat) → Filled
  | done, [] => done
  | done, .inl text :: [] => done.addText { text, fixed }
  | done, .inl text :: rest => fillWith s settle fixed (done.addText (.plain text)) rest
  | done, .inr n :: rest =>
    match s.part? n with
    | some (.text content) => fillWith s settle fixed (done.addText (.plain content)) rest
    | some (.element e) => fillWith s settle fixed (done.addChild (settle e)) rest
    | none => fillWith s settle fixed (done.addText (.plain (inlineMark n))) rest

/-- Puts the parts back into a text, where parts are inside of parts up to the depth. -/
def fill (s : Stash) : (depth : Nat) → Fragment → Filled
  | 0, fragment => { lead := fragment }
  | depth + 1, fragment =>
    let fillText (fragment : Fragment) : Filled :=
      if fragment.isBlank then { lead := fragment } else fill s depth fragment
    let settle (e : Element) : Element :=
      let filled := fillText e.text
      let children := e.children.flatMap fun (child, tail) =>
        let behind := fillText tail
        let inside := fillText child.text
        ({ child with text := inside.lead, children := inside.children ++ child.children },
          behind.lead) :: behind.children
      { e with text := filled.lead, children := filled.children ++ children }
    s.fillWith settle fragment.fixed {} (splitMarks inlineStart fragment.text)

end Stash

/-- Reads a text and puts the parts back. -/
def readFilled (setting : Setting) (fragment : Fragment) : InlineM Filled := do
  if fragment.isEmpty then return { lead := fragment }
  let text ← if fragment.fixed then pure fragment.text else readLine setting fragment.text
  let s ← get
  return s.fill (s.parts.length + 1) { fragment with text }

mutual

def readChildren (setting : Setting) : Nat → Element → InlineM Element
  | 0, e => pure e
  | fuel + 1, e => do return { e with children := ← readList setting fuel e.children }

/-- Reads the text of elements and the text behind them. The elements in the text behind one come next. -/
def readList (setting : Setting) : Nat → List (Element × Fragment) →
    InlineM (List (Element × Fragment))
  | 0, children => pure children
  | _ + 1, [] => pure []
  | fuel + 1, (e, tail) :: rest => do
    let inside ← if e.text.fixed then pure { lead := e.text } else readFilled setting e.text
    let behind ← readFilled setting tail
    let added ← inside.children.mapM fun (child, tail) => do
      return (← readChildren setting fuel child, tail)
    let filled := { e with text := inside.lead, children := added ++ e.children }
    let filled ← if e.children.isEmpty then pure filled else readChildren setting fuel filled
    return (filled, behind.lead) :: (← readList setting fuel (behind.children ++ rest))

end

end BraceLink.Classic
