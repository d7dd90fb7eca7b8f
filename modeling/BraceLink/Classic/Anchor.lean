import BraceLink.Classic.Element
import BraceLink.Resolver

/-!
# Links of records

The element for a record: a link with the image as an empty element and the text behind it. The text is fixed.
-/

namespace BraceLink.Classic

def imageElement (image : Text) : Element :=
  { tag := "span"
    attrs := [("class", Link.imageClass), ("style", Link.backgroundStyle image)] }

def anchor (record : Record) : Element :=
  { tag := "a"
    attrs := [("href", record.link), ("class", record.className)]
    children := [(imageElement record.image, .ofFixed record.text)] }

/-- An element with the place in a text that it stands for. -/
structure Found where
  element : Element
  start : Int
  stop : Int

/-- The element for the brace token at an offset, if it resolves. -/
def anchorAt (resolver : Resolver) (source : Text) (offset : Int) :
    Except Resolver.Error (Option Found) :=
  (resolver.resolveAt source offset).map fun found =>
    found.map fun (token, record) =>
      { element := anchor record, start := token.start, stop := token.stop }

end BraceLink.Classic
