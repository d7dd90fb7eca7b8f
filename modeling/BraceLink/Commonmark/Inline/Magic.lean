import BraceLink.Commonmark.Inline.Rule
import BraceLink.Resolver

/-!
# Tokens inside paragraphs

The rule for brace tokens adds four pieces for a token that resolves: the beginning of the link, the
image, the text and the end of the link. A token that does not resolve is left to the other rules. In
silent mode it is enough that a handler answers.
-/

namespace BraceLink.Commonmark

/-- The image of a link as HTML. -/
def imageSpan (record : Record) : Text :=
  "<span class=\"" ++ Link.imageClass ++ "\" style=\"" ++
    Link.backgroundStyle (Html.escape record.image) ++ "\"></span>"

/-- Adds the pieces of a record. -/
def State.pushRecord (s : State) (record : Record) : State :=
  (((s.pushOpen (.linkOpen [("href", record.link), ("class", record.className)] true)).push
    (.html (imageSpan record))).push (.text record.text)).pushClose (.linkClose true)

/-- A step on the state of a paragraph. It may fail, and even then it leaves a state behind. -/
abbrev Action := ExceptT Fault (StateM State)

/-- The outcome of a step on a state, and the state that it leaves. -/
def Action.on {α : Type} (action : Action α) (s : State) : Except Fault α × State := action.run.run s

/-- Moves behind a brace token that resolves and adds its pieces, in silent mode without adding them. -/
def State.magic (resolver : Resolver) (silent : Bool) : Action Bool := do
  let s ← get
  match Token.at? s.src s.pos with
  | .error _ | .ok none => return false
  | .ok (some token) =>
    if silent then
      if (← MonadExcept.ofExcept (resolver.parse token.payload)).isNone then return false
    else
      match ← MonadExcept.ofExcept (resolver.resolve token.payload) with
      | none => return false
      | some record => modify fun s => s.pushRecord record
    modify fun s => s.moveTo (s.pos + token.length.toNat)
    return true

/-- The rule that takes a step. Where the step fails the paragraph is given up, and its state with it. -/
def Rule.ofAction (action : Bool → Action Bool) : Rule := fun _ _ silent s =>
  match (action silent).on s with
  | (.ok done, after) => .ok (done, after)
  | (.error fault, _) => .error fault

/-- A brace token that resolves. -/
def Rule.magic (resolver : Resolver) : Rule := Rule.ofAction (State.magic resolver)

end BraceLink.Commonmark
