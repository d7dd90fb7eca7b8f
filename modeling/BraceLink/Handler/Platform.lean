import BraceLink.Handler.Basic
import BraceLink.Text.Uppercase

/-!
# Mentions on a platform

The payload `@platform:user|text|link`, answered for the users that the settings list.
-/

namespace BraceLink

structure Profile where
  link : Text
  avatar : Text
  displayName : Option Text := none
  deriving DecidableEq, Repr

namespace Handler

/-- The mention after the at sign, if the first part of the payload is one. -/
def mention? (payload : Text) : Option Text :=
  match Payload.part 0 payload with
  | '@' :: mention => some mention
  | _ => none

def profile? (platforms : List (Text × List (Text × Profile))) (platform user : Text) :
    Option Profile :=
  (platforms.lookup platform).bind fun users => users.lookup user

def platformDraft (platforms : List (Text × List (Text × Profile))) (payload : Text) :
    Option Draft :=
  match mention? payload with
  | none => none
  | some mention =>
    match Text.cut ':' mention with
    | (_, none) => none
    | (platform, some user) =>
      if platform.isEmpty || user.isEmpty then none
      else
        (profile? platforms platform user).map fun profile =>
          { link := Payload.firstNonEmpty [Payload.part 2 payload] profile.link
            text := some <| Payload.firstNonEmpty
              [Payload.part 1 payload, profile.displayName.getD []] (Text.upper user)
            kind := some (platform ++ "-at")
            image := some profile.avatar }

/-- The handler of mentions on the configured platforms. -/
def platform (platforms : List (Text × List (Text × Profile))) : Handler :=
  pure "platform-at" "PlatformAtHandler" (platformDraft platforms)

end Handler

end BraceLink
