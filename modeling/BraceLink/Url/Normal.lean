import BraceLink.Url.Parts
import BraceLink.Url.Percent
import BraceLink.Url.Punycode

/-!
# Normal form of links

A link is normalised before it is used: host labels beyond ASCII are written in their ASCII form, and
every character that may not stand in a URL is escaped.
-/

namespace BraceLink.Url

/-- Whether the character separates labels of a host name, in any script. -/
def isLabelSeparator (c : Char) : Bool :=
  c = '.' || c.toNat = 0x3002 || c.toNat = 0xFF0E || c.toNat = 0xFF61

def hostLabels (name : Text) : List Text :=
  Text.splitOn '.' (name.map fun c => if isLabelSeparator c then '.' else c)

/-- Rewrites each label of a host name; what stands before an `@` is kept. -/
def mapLabels (f : Text → Text) (name : Text) : Text :=
  match Text.splitOn '@' name with
  | user :: domain :: _ => user ++ '@' :: Text.join ['.'] ((hostLabels domain).map f)
  | _ => Text.join ['.'] ((hostLabels name).map f)

def asciiLabel (label : Text) : Text :=
  if label.any fun c => 0x7E < c.toNat then "xn--" ++ Punycode.encode label else label

/-- A label as it is shown, if its ASCII form can be read. -/
def shownLabel? (half : Char) (label : Text) : Option Text :=
  match Text.dropPrefix? "xn--" label with
  | some rest => Punycode.decode? half (Text.lowerAscii rest)
  | none => some label

/-- Whether host names under the protocol are encoded. -/
def recodesHost (protocol : Text) : Bool :=
  protocol.isEmpty || (["http:", "https:", "mailto:"] : List Text).contains protocol

/-- The URL that has these parts with everything escaped that may not stand in it; the brackets of a
host name stay. -/
def writeEscaped (parts : Parts) : Text :=
  if parts.needsBrackets then
    escape parts.writeHead ++ '[' :: escape parts.hostName ++ ']' :: escape parts.writeTail
  else escape parts.write

/-- The normal form of a link. -/
def normalize (url : Text) : Text :=
  let parts := Parts.read url
  let parts :=
    if recodesHost parts.protocol && !parts.hostName.isEmpty then
      { parts with hostName := mapLabels asciiLabel parts.hostName }
    else parts
  writeEscaped parts

/-- A host name as it is shown; it stays as it is if one of its labels cannot be read. -/
def shownHost (half : Char) (name : Text) : Text :=
  let (user, domain) :=
    match Text.splitOn '@' name with
    | user :: domain :: _ => (user ++ ['@'], domain)
    | _ => ([], name)
  match (hostLabels domain).mapM (shownLabel? half) with
  | some labels => user ++ Text.join ['.'] labels
  | none => name

/-- A link as it is shown to a reader, with `half` for each surrogate in its host name. -/
def shown (half : Char) (url : Text) : Text :=
  let parts := Parts.read url
  let parts :=
    if recodesHost parts.protocol && !parts.hostName.isEmpty then
      { parts with hostName := shownHost half parts.hostName }
    else parts
  unescape parts.write

end BraceLink.Url
