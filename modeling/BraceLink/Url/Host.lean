import BraceLink.Text.Blank
import BraceLink.Text.Lowercase

/-!
# The host of a URL

The host name that a browser's address would show: what stands between `//` and the next `/`, `?` or
`#`, without user information and port, in lower case. Some authorities are refused: brackets that do
not match, brackets around something that is no address, and characters that turn into delimiters
when they are normalised.
-/

namespace BraceLink.Url

/-- Why an authority is refused. -/
inductive HostError where
  /-- An opening bracket without a closing one, or the other way round. -/
  | unmatchedBracket
  /-- Brackets around a text that is no address. -/
  | bracketedHost
  /-- A character whose compatibility form holds a delimiter. -/
  | hiddenDelimiter
  deriving DecidableEq, Repr

/-- Characters whose compatibility form holds one of `/`, `?`, `#`, `@` and `:`. -/
def hiddenDelimiters : List Nat :=
  [0x2047, 0x2048, 0x2049, 0x2100, 0x2101, 0x2105, 0x2106, 0x2A74, 0xFE13, 0xFE16, 0xFE55, 0xFE56,
   0xFE5F, 0xFE6B, 0xFF03, 0xFF0F, 0xFF1A, 0xFF1F, 0xFF20]

/-- Whether the text is a decimal number up to 255 without leading zeros. -/
def isOctet (text : Text) : Bool :=
  !text.isEmpty && text.all Char.isDigit && text.length ≤ 3 &&
    (text.head? != some '0' || text.length = 1) && Text.decimalNumber text ≤ 255

/-- Whether the text is an address of four octets. -/
def isDottedAddress (text : Text) : Bool :=
  let octets := Text.splitOn '.' text
  octets.length = 4 && octets.all isOctet

/-- Whether the text is a group of a colon address. -/
def isGroup (text : Text) : Bool :=
  !text.isEmpty && text.length ≤ 4 && text.all Text.isHexDigit

/-- Places of the empty groups that are neither the first nor the last one. -/
def gapsOf (groups : List Text) : List Nat :=
  (List.range groups.length).filter fun i =>
    0 < i && i + 1 < groups.length && groups[i]? = some []

/-- Whether the groups make an address of eight groups; one empty group inside stands for a run of
zeros, and then an empty group may also stand beside it at the beginning or at the end. -/
def areGroups (groups : List Text) : Bool :=
  match gapsOf groups with
  | [] => groups.length = 8 && groups.all isGroup
  | [gap] =>
    let outer (side : List Text) : List Text := if side = [[]] then [] else side
    let kept := outer (groups.take gap) ++ outer (groups.drop (gap + 1))
    groups.length ≤ 9 && kept.length < 8 && kept.all isGroup
  | _ => false

/-- Whether the text is an address of groups between colons, with an optional zone. -/
def isColonAddress (text : Text) : Bool :=
  let (address, zone) := Text.cut '%' text
  let zoneOk :=
    match zone with
    | none => true
    | some zone => !zone.isEmpty && '%' ∉ zone
  let groups := Text.splitOn ':' address
  let last := groups.getLastD []
  let asGroups :=
    if '.' ∉ last then groups
    else if isDottedAddress last then groups.dropLast ++ [['0'], ['0']]
    else []
  zoneOk && 3 ≤ groups.length && areGroups asGroups

/-- Whether the text may stand in brackets: an address of groups, or one of a later version. -/
def isBracketed (text : Text) : Bool :=
  match text with
  | 'v' :: rest =>
    match Text.cut '.' rest with
    | (version, some address) =>
      !version.isEmpty && version.all Text.isHexDigit && !address.isEmpty && '\n' ∉ address
    | (_, none) => false
  | _ => isColonAddress text

def isSchemeChar (c : Char) : Bool := c.isAlphanum || c = '+' || c = '-' || c = '.'

/-- The text after a scheme and its colon, or the whole text if there is none. -/
def afterScheme (url : Text) : Text :=
  match url, Text.cut ':' url with
  | first :: _, (scheme, some rest) =>
    if first.isAlpha && !scheme.isEmpty && scheme.all isSchemeChar then rest else url
  | _, _ => url

def endsAuthority (c : Char) : Bool := c = '/' || c = '?' || c = '#'

/-- The URL without controls and spaces in front and without line ends and tabs. -/
def tidy (url : Text) : Text :=
  (url.dropWhile fun c => c.toNat ≤ 0x20).filter fun c => c ≠ '\t' ∧ c ≠ '\n' ∧ c ≠ '\r'

/-- The text between `//` and the path, if the URL has one. -/
def authority (url : Text) : Text :=
  match afterScheme (tidy url) with
  | '/' :: '/' :: rest => rest.takeWhile fun c => !endsAuthority c
  | _ => []

/-- What an authority says about its host, without user information and port. -/
def hostPart (authority : Text) : Text :=
  let (_, host) := Text.cutLast '@' authority
  match Text.cut '[' host with
  | (_, some bracketed) => (Text.cut ']' bracketed).1
  | (plain, none) => (Text.cut ':' plain).1

/-- Lower case up to a zone mark, which is kept with what follows. -/
def lowerHost (host : Text) : Text :=
  match Text.cut '%' host with
  | (name, some zone) => Text.lower name ++ '%' :: zone
  | (name, none) => Text.lower name

/-- Why the authority is refused, if it is. -/
def authorityError? (authority : Text) : Option HostError :=
  if ('[' ∈ authority) != (']' ∈ authority) then some .unmatchedBracket
  else if '[' ∈ authority && !isBracketed (Text.cut ']' ((Text.cut '[' authority).2.getD [])).1 then
    some .bracketedHost
  else if authority.any fun c => c.toNat ∈ hiddenDelimiters then some .hiddenDelimiter
  else none

/-- The host name of a URL, empty if it has none. -/
def host (url : Text) : Except HostError Text :=
  match authorityError? (authority url) with
  | some error => .error error
  | none => .ok (lowerHost (hostPart (authority url)))

def hasHost (url : Text) : Bool :=
  match host url with
  | .ok name => !name.isEmpty
  | .error _ => false

end BraceLink.Url
