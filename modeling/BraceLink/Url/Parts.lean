import BraceLink.Text.Blank

/-!
# The parts of a URL

A URL is cut into protocol, user information, host name, port, path, query and fragment, in a way
that loses as little as possible: a host name ends where it stops being one, and the rest goes to the
path. `Parts.write` puts the parts together again.
-/

namespace BraceLink.Url

/-- The parts of a URL; each part but the host name and the user information keeps its delimiter. -/
structure Parts where
  protocol : Text
  slashes : Bool
  user : Text
  hostName : Text
  port : Text
  path : Text
  query : Text
  fragment : Text
  deriving DecidableEq, Repr

namespace Parts

/-- Letters beyond ASCII that count as one of the letters `i`, `k` and `s` when case is ignored. -/
def asciiLookalikes : List Nat := [0x130, 0x131, 0x17F, 0x212A]

def isProtocolChar (c : Char) : Bool :=
  c.isAlphanum || c = '.' || c = '+' || c = '-' || c.toNat ∈ asciiLookalikes

/-- The protocol with its colon and the text after it; the protocol is empty if there is none. -/
def cutProtocol (url : Text) : Text × Text :=
  match Text.cut ':' url with
  | (name, some rest) =>
    if !name.isEmpty && name.all isProtocolChar then (name ++ [':'], rest) else ([], url)
  | (_, none) => ([], url)

def isHostless (protocol : Text) : Bool := protocol = "javascript:".toList

def isSlashed (protocol : Text) : Bool :=
  (["http:", "https:", "ftp:", "gopher:", "file:"] : List Text).contains protocol

/-- Whether the character ends the part in which user information may stand. -/
def endsUser (c : Char) : Bool := c = '/' || c = '?' || c = '#'

def endsHost (c : Char) : Bool :=
  c ∈ ("%/?;#\x27\x7B\x7D|\\^\x60<>\x22 \r\n\t" : Text)

/-- User information before the last `@` that stands before the path, and the text after it. -/
def cutUser (text : Text) : Text × Text :=
  let head := text.takeWhile fun c => !endsUser c
  match Text.cutLast '@' head with
  | (some user, after) => (user, after ++ text.drop head.length)
  | (none, _) => ([], text)

/-- The host with its port and the text after it; a colon at the end belongs to the rest. -/
def cutHost (text : Text) : Text × Text :=
  let host := text.takeWhile fun c => !endsHost c
  let rest := text.drop host.length
  if host.getLast? = some ':' then (host.dropLast, ':' :: rest) else (host, rest)

/-- The host name and the port of a host; the port is the digits after a colon at the end. -/
def cutPort (host : Text) : Text × Text :=
  let digits := (host.reverse.takeWhile Char.isDigit).reverse
  let before := host.take (host.length - digits.length)
  if before.getLast? = some ':' then (before.dropLast, digits) else (host, [])

/-- Whether the character may stand in a label of a host name. -/
def isLabelChar (c : Char) : Bool := c.isAlphanum || c = '+' || c = '_' || c = '-'

/-- Whether a label is short enough and has only allowed characters; those beyond ASCII are
allowed if `foreign` holds. -/
def isLabel (foreign : Bool) (label : Text) : Bool :=
  label.length ≤ 63 && label.all fun c => isLabelChar c || (foreign && 127 < c.toNat)

/-- The beginning of a label that is allowed as it is, at most 63 characters. -/
def labelStart (label : Text) : Text := (label.takeWhile isLabelChar).take 63

/-- Cuts the labels at the first one that is not allowed: the labels before it with the beginning of
that label, and the rest of it with the labels after it. -/
def cutLabels : List Text → List Text × Option (List Text)
  | [] => ([], none)
  | label :: rest =>
    if isLabel false label || isLabel true label then
      let (before, after) := cutLabels rest
      (label :: before, after)
    else
      let start := labelStart label
      ([start], some (label.drop start.length :: rest))

/-- Whether a host name stands in brackets. -/
def isBracketedName (name : Text) : Bool :=
  name.head? = some '[' && name.getLast? = some ']'

/-- The host name as it is used, and what of it belongs to the rest of the URL. -/
def checkName (name : Text) : Text × Text :=
  if isBracketedName name then
    (if 255 < name.length then [] else (name.drop 1).dropLast, [])
  else
    let (labels, after) := cutLabels (Text.splitOn '.' name)
    let used := Text.join ['.'] labels
    (if 255 < used.length then [] else used,
      match after with
      | some labels => Text.join ['.'] labels
      | none => [])

/-- Path, query and fragment of the text after the host. -/
def cutPath (text : Text) : Text × Text × Text :=
  let beforeFragment := text.takeWhile (· ≠ '#')
  let path := beforeFragment.takeWhile (· ≠ '?')
  (path, beforeFragment.drop path.length, text.drop beforeFragment.length)

def read (url : Text) : Parts :=
  let (protocol, rest) := cutProtocol (Text.strip url)
  let (slashes, rest) :=
    match rest with
    | '/' :: '/' :: after => if isHostless protocol then (false, rest) else (true, after)
    | _ => (false, rest)
  if !isHostless protocol && (slashes || (!protocol.isEmpty && !isSlashed protocol)) then
    let (user, rest) := cutUser rest
    let (host, rest) := cutHost rest
    let (name, port) := cutPort host
    let (name, excess) := checkName name
    let (path, query, fragment) := cutPath (excess ++ rest)
    ⟨protocol, slashes, user, name, port, path, query, fragment⟩
  else
    let (path, query, fragment) := cutPath rest
    ⟨protocol, slashes, [], [], [], path, query, fragment⟩

/-- A part with its delimiter, or nothing if the part is empty. -/
def unlessEmpty (part : Text) (whole : Text) : Text := if part.isEmpty then [] else whole

/-- What stands before the host name. -/
def writeHead (parts : Parts) : Text :=
  parts.protocol ++ (if parts.slashes then "//" else "") ++
    unlessEmpty parts.user (parts.user ++ ['@'])

/-- What stands after the host name. -/
def writeTail (parts : Parts) : Text :=
  unlessEmpty parts.port (':' :: parts.port) ++ parts.path ++ parts.query ++ parts.fragment

def needsBrackets (parts : Parts) : Bool := ':' ∈ parts.hostName

def write (parts : Parts) : Text :=
  parts.writeHead ++
    (if parts.needsBrackets then '[' :: parts.hostName ++ [']'] else parts.hostName) ++
    parts.writeTail

end Parts

end BraceLink.Url
