import BraceLink.Chain
import BraceLink.Registry
import BraceLink.Token
import BraceLink.Url.Normal

/-!
# Resolvers

A resolver is a chain of handlers with a normaliser of links and image rules. It turns a payload, or the
token at a place of a text, into a record.
-/

namespace BraceLink

/-- A chain of handlers with all that its answers pass through. -/
structure Resolver where
  settings : Settings
  handlers : List Handler
  normalize : Text → Text

namespace Resolver

def build (registry : Registry) (settings : Settings) (normalize : Text → Text := Url.normalize) :
    Except Registry.Error Resolver :=
  (registry.buildChain settings settings.chain).map fun handlers =>
    { settings, handlers, normalize }

/-- The expression that messages show for a resolver. -/
def literal (resolver : Resolver) : Text :=
  "MagicLinkEngine(handlers=" ++ Text.quotedList (resolver.handlers.map Handler.name) ++ ")"

def parse (resolver : Resolver) (payload : Text) : Except Fault (Option Draft) :=
  Chain.draft? resolver.handlers payload

def complete (resolver : Resolver) (draft : Draft) : Record :=
  ImageRule.apply resolver.settings.rules
    (Chain.complete resolver.handlers resolver.normalize draft)

def resolve (resolver : Resolver) (payload : Text) : Except Fault (Option Record) :=
  (resolver.parse payload).map fun draft => draft.map resolver.complete

/-- The record for a payload, where the handlers of the chain correct records by actions. -/
def resolveWith {m : Type → Type} [Monad m] (corrections : List (Record → m (Option Record))) (resolver : Resolver)
    (payload : Text) : m (Except Fault (Option Record)) :=
  match resolver.parse payload with
  | .error fault => return .error fault
  | .ok none => return .ok none
  | .ok (some draft) => do
    let record ← Chain.correctWith corrections (draft.fill resolver.normalize)
    return .ok (some (ImageRule.apply resolver.settings.rules record))

/-- Why a place of a text cannot be resolved. -/
inductive Error where
  | offset (error : Token.OffsetError)
  | handler (fault : Fault)
  deriving DecidableEq, Repr

/-- The token at the offset with its record, if there is a token and it resolves. -/
def resolveAt (resolver : Resolver) (source : Text) (offset : Int) :
    Except Error (Option (Token × Record)) :=
  match Token.at? source offset with
  | .error error => .error (.offset error)
  | .ok none => .ok none
  | .ok (some token) =>
    match resolver.resolve token.payload with
    | .error fault => .error (.handler fault)
    | .ok record => .ok (record.map fun record => (token, record))

/-- What a chain tells about a payload. -/
def chainEvents (handlers : List Handler) (payload : Text) : List Event :=
  match Chain.answer? handlers payload with
  | .error _ => []
  | .ok none => [.unresolved payload]
  | .ok (some (handler, _)) => [.resolved payload handler.name]

/-- What image rules tell about a record. -/
def imageEvents (rules : List ImageRule) (record : Record) : List Event :=
  match ImageRule.first? rules record.link with
  | some rule => [.imageReplaced record.link rule.image]
  | none => []

/-- What the resolver tells about a payload that it resolves. -/
def events (resolver : Resolver) (payload : Text) : List Event :=
  chainEvents resolver.handlers payload ++
    match resolver.parse payload with
    | .ok (some draft) =>
      imageEvents resolver.settings.rules
        (Chain.complete resolver.handlers resolver.normalize draft)
    | _ => []

end Resolver

end BraceLink
