import BraceLink.Event
import BraceLink.Handler.Custom
import BraceLink.Handler.GitHub
import BraceLink.Handler.Named
import BraceLink.Handler.Platform
import BraceLink.Settings.Basic

/-!
# The registry of handler kinds

A registry gives names to kinds of handlers. Its entries are kept in the order of their names, so that
every listing is sorted. A call that fails leaves the registry as it was.

* `Registry.register`, `Registry.deregister`: adding and removing a name.
* `Registry.loadAll`: adding what packages offer, where offers that cannot be used are skipped.
* `Registry.buildChain`: the handlers of a chain, in which names stand for kinds.
-/

namespace BraceLink

structure HandlerKind where
  /-- The name of the kind that messages show. -/
  label : Text
  /-- Where the kind is defined. -/
  home : Text := []
  /-- Builds a handler from settings, if the kind has handlers of its own. -/
  build? : Option (Settings → Handler)

namespace HandlerKind

/-- Links by address or by name. -/
def named : HandlerKind :=
  { label := "LinkHandler"
    home := "magic_link.handlers.link"
    build? := some fun settings => Handler.named settings.links }

def platform : HandlerKind :=
  { label := "PlatformAtHandler"
    home := "magic_link.handlers.platform"
    build? := some fun settings => Handler.platform settings.platforms }

def github : HandlerKind :=
  { label := "GitHubAtHandler"
    home := "magic_link.handlers.github"
    build? := some fun _ => Handler.github }

def package : HandlerKind := { label := "NpmHandler", build? := some fun _ => Handler.package }

def silent : HandlerKind := { label := "NullHandler", build? := some fun _ => Handler.silent }

def general : HandlerKind :=
  { label := "MagicLinkHandler", home := "magic_link.handlers.base", build? := none }

end HandlerKind

/-- What is offered for registration: a kind of handlers, or something else, given by the expression
that messages show for it. Values for which no expression can be written, such as whole numbers of too many digits, are
not among the offers. -/
inductive Offer where
  | kind (k : HandlerKind)
  | other (literal : Text)

/-- What a package offers under a name. -/
structure EntryPoint where
  name : Text
  /-- The offer, if it can be loaded. -/
  offer : Option Offer

/-- Names of kinds of handlers, in increasing order. -/
structure Registry where
  entries : List (Text × HandlerKind) := []

namespace Registry

/-- Why a call fails. -/
inductive Error where
  | unknown (name : Text) (available : List Text)
  | taken (name : Text)
  | noKind (literal name : Text)
  /-- The kind has no handlers of its own. -/
  | notBuildable
  deriving DecidableEq, Repr

/-- An error in words; one of them needs none. -/
def Error.message : Error → Text
  | .unknown name available =>
    let names : Text := if available.isEmpty then "(none)" else Text.join ", " available
    "Handler " ++ Text.quoted name ++ " is not registered. Available handlers: " ++ names ++
      ". Check that the package is installed and its entry-points are declared."
  | .taken name =>
    "Handler " ++ Text.quoted name ++
      " is already registered. Use a unique name or explicitly deregister the existing entry first."
  | .noKind literal name =>
    "Cannot register " ++ literal ++ " under " ++ Text.quoted name ++
      ": it must be a subclass of MagicLinkHandler."
  | .notBuildable => []

/-- The names in increasing order. -/
def names (registry : Registry) : List Text := registry.entries.map Prod.fst

def has (registry : Registry) (name : Text) : Bool := (registry.entries.lookup name).isSome

/-- How many names are registered. -/
def size (registry : Registry) : Nat := registry.entries.length

/-- The expression that messages show for a registry. -/
def literal (registry : Registry) : Text :=
  "HandlerRegistry(handlers=" ++ Text.quotedList registry.names ++ ")"

/-- Puts an entry in its place among entries in increasing order. -/
def insertEntry (name : Text) (kind : HandlerKind) :
    List (Text × HandlerKind) → List (Text × HandlerKind)
  | [] => [(name, kind)]
  | entry :: rest =>
    if name < entry.1 then (name, kind) :: entry :: rest
    else entry :: insertEntry name kind rest

def unknown (registry : Registry) (name : Text) : Error := .unknown name registry.names

/-- Registers an offer under a name that is free. -/
def register (registry : Registry) (name : Text) (offer : Offer) : Except Error Registry :=
  if registry.has name then .error (.taken name)
  else
    match offer with
    | .kind k => .ok ⟨insertEntry name k registry.entries⟩
    | .other literal => .error (.noKind literal name)

def registration (name : Text) : Offer → List Event
  | .kind k => [.registered name k.label]
  | .other _ => []

def deregister (registry : Registry) (name : Text) : Except Error Registry :=
  if registry.has name then .ok ⟨registry.entries.filter fun entry => entry.1 ≠ name⟩
  else .error (registry.unknown name)

def get (registry : Registry) (name : Text) : Except Error HandlerKind :=
  match registry.entries.lookup name with
  | some k => .ok k
  | none => .error (registry.unknown name)

/-- A handler of the kind registered under a name, built from settings. -/
def create (registry : Registry) (name : Text) (settings : Settings) : Except Error Handler :=
  match registry.get name with
  | .error error => .error error
  | .ok kind =>
    match kind.build? with
    | some build => .ok (build settings)
    | none => .error .notBuildable

def defaultNames : List Text := ["link", "platform-at", "github-at"]

def build (registry : Registry) (settings : Settings) : ChainEntry → Except Error Handler
  | .name name => registry.create name settings
  | .handler handler => .ok handler

/-- The handlers of a chain; without entries it is the default chain. -/
def buildChain (registry : Registry) (settings : Settings) (entries : Option (List ChainEntry)) :
    Except Error (List Handler) :=
  (entries.getD (defaultNames.map ChainEntry.name)).mapM (registry.build settings)

/-- Registers what an entry point offers, unless its name is taken or the offer cannot be used. -/
def load (group : Text) (registry : Registry) (entry : EntryPoint) : Registry × Event :=
  if registry.has entry.name then (registry, .entryPresent entry.name)
  else
    match entry.offer with
    | none => (registry, .entryNotLoaded entry.name group)
    | some (.other _) => (registry, .entryRefused entry.name)
    | some (.kind k) =>
      (⟨insertEntry entry.name k registry.entries⟩, .registered entry.name k.label)

def loadAll (group : Text) : Registry → List EntryPoint → Registry × List Event
  | registry, [] => (registry, [])
  | registry, entry :: rest =>
    let (registry, event) := load group registry entry
    let (registry, events) := loadAll group registry rest
    (registry, event :: events)

/-- The group of the entry points that offer kinds of handlers. -/
def entryGroup : Text := "magic_link.handlers"

/-- The registry with the three kinds of the default chain. -/
def builtin : Registry :=
  { entries :=
      [("github-at", HandlerKind.github), ("link", HandlerKind.named),
        ("platform-at", HandlerKind.platform)] }

end Registry

end BraceLink
