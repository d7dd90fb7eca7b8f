import BraceLink.Text.Quoted

/-!
# Events

What a run tells about itself. Each event is a value; its level, its area and its message follow from
it.
-/

namespace BraceLink

/-- How much an event matters. -/
inductive Level where
  | debug
  | warning
  | error
  deriving DecidableEq, Repr

/-- The part of the library that an event tells about. -/
inductive Area where
  | chain
  | images
  | registry
  deriving DecidableEq, Repr

inductive Event where
  | resolved (payload handler : Text)
  | unresolved (payload : Text)
  | imageReplaced (link image : Text)
  | registered (name label : Text)
  | deregistered (name : Text)
  | entryPresent (name : Text)
  | entryNotLoaded (name group : Text)
  | entryRefused (name : Text)
  deriving DecidableEq, Repr

namespace Event

def level : Event → Level
  | .entryNotLoaded _ _ => .error
  | .entryRefused _ => .warning
  | _ => .debug

def area : Event → Area
  | .resolved _ _ | .unresolved _ => .chain
  | .imageReplaced _ _ => .images
  | _ => .registry

def message : Event → Text
  | .resolved payload handler =>
    "Payload " ++ Text.quoted payload ++ " resolved by handler " ++ Text.quoted handler
  | .unresolved payload => "Payload " ++ Text.quoted payload ++ " left unresolved"
  | .imageReplaced link image =>
    "Image override for " ++ Text.quoted link ++ " -> " ++ Text.quoted image
  | .registered name label => "Registered handler " ++ Text.quoted name ++ " -> " ++ label
  | .deregistered name => "Deregistered handler " ++ Text.quoted name
  | .entryPresent name => "Entry-point " ++ Text.quoted name ++ " already registered; skipping."
  | .entryNotLoaded name group =>
    "Failed to load entry-point " ++ Text.quoted name ++ " from group " ++ Text.quoted group ++
      "; skipping."
  | .entryRefused name =>
    "Entry-point " ++ Text.quoted name ++ " loaded but could not be registered; skipping."

end Event

end BraceLink
