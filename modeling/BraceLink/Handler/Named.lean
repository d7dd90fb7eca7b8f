import BraceLink.Handler.Basic

/-!
# Links by address or by name

The payload `text|url`, or a URL alone, or a name that the settings give a target. An address in the
payload wins over the settings. The answer is a link only if the target begins with `http://` or
`https://` and has a host.
-/

namespace BraceLink

/-- The target of a name, with an image of its own if it has one. -/
structure Target where
  link : Text
  image : Option Text := none
  deriving DecidableEq, Repr

namespace Handler

def namedKind : Text := "link"

/-- Whether the URL begins with one of the two schemes of the web. -/
def isWebUrl (url : Text) : Bool :=
  Text.isPrefix "http://" url || Text.isPrefix "https://" url

/-- The target that the settings give a name; the empty name has none. -/
def target? (targets : List (Text × Target)) (name : Text) : Option Target :=
  if name.isEmpty then none else targets.lookup name

def namedDraft (targets : List (Text × Target)) (payload : Text) : Option Draft :=
  let text := Payload.part 0 payload
  let target := target? targets text
  let url := Payload.firstNonEmpty
    [Payload.part 1 payload, (target.map Target.link).getD []] text
  if isWebUrl url && Url.hasHost url then
    some
      { link := url
        text := some (if text.isEmpty then Link.withoutScheme url else text)
        kind := some namedKind
        image := target.bind Target.image }
  else none

/-- The handler of addresses and configured names. -/
def named (targets : List (Text × Target)) : Handler :=
  pure "link" "LinkHandler" (namedDraft targets)

end Handler

end BraceLink
