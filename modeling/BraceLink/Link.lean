import BraceLink.Payload
import BraceLink.Url.Host

/-!
# Links

A handler answers a payload with a draft, in which only the target is certain. A record is a draft
with every field filled in: it is what a document shows.
-/

namespace BraceLink

/-- What a handler makes of a payload. -/
structure Draft where
  /-- The target. -/
  link : Text
  /-- The text to show, if the handler gives one. -/
  text : Option Text := none
  /-- The category, if the handler gives one. -/
  kind : Option Text := none
  /-- Classes beside the general ones. -/
  classes : List Text := []
  /-- The image, if the handler gives one. -/
  image : Option Text := none
  deriving DecidableEq, Repr

structure Record where
  text : Text
  link : Text
  kind : Text
  classes : List Text
  image : Text
  deriving DecidableEq, Repr

namespace Link

/-- The class that every link has; the other general classes begin with it. -/
def generalClass : Text := "markdown-magic-link"

def imageClass : Text := "markdown-magic-link-image"

/-- The category of a link without a category of its own. -/
def defaultKind : Text := "link"

/-- What every icon address begins with. -/
def faviconPrefix : Text := "https://favicon.yandex.net/favicon/"

def sameLetter (small c : Char) : Bool :=
  -- the long s is an `s` where case is ignored
  c = small || Char.toLower c = small || (small = 's' && c.toNat = 0x17F)

/-- What follows the beginning `small`, in either case. -/
def dropLetters? : Text → Text → Option Text
  | [], text => some text
  | _ :: _, [] => none
  | small :: more, c :: rest => if sameLetter small c then dropLetters? more rest else none

/-- The URL without a leading `http://` or `https://`, in either case. -/
def withoutScheme (url : Text) : Text :=
  match dropLetters? "https://" url with
  | some rest => rest
  | none => (dropLetters? "http://" url).getD url

/-- The address of the icon of the site that a URL belongs to. -/
def favicon (url : Text) : Text :=
  faviconPrefix ++
    match Url.host url with
    | .ok name => name
    | .error _ => []

/-- The value of the `style` attribute that shows an image as a background. -/
def backgroundStyle (image : Text) : Text := "background-image: url('" ++ image ++ "');"

end Link

/-- The value of the `class` attribute. -/
def Record.className (record : Record) : Text := Text.join [' '] record.classes

/-- The draft's own value if it has one that is not empty, otherwise the default. -/
def orDefault (own : Option Text) (default : Text) : Text :=
  match own with
  | some (c :: rest) => c :: rest
  | _ => default

/-- The record of a draft before any handler looks at it again: the target is normalised once, and
every default is taken from the normalised target. -/
def Draft.fill (normalize : Text → Text) (draft : Draft) : Record :=
  let link := normalize draft.link
  let kind := orDefault draft.kind Link.defaultKind
  { text := orDefault draft.text (Link.withoutScheme link)
    link := link
    kind := kind
    classes := Link.generalClass :: (Link.generalClass ++ '-' :: kind) :: draft.classes
    image := orDefault draft.image (Link.favicon link) }

end BraceLink
