import BraceLink.Settings.Error

/-!
# Reading settings

Settings are read from values, option by option and entry by entry, and the first entry that is
malformed decides about the error. Every option and several keys of entries have two spellings.

* `readTarget`, `readProfile`, `readRule`: single entries.
* `Sections.read`: settings from the values of the four options.
* `Settings.ofValue`: settings from a mapping of options.
-/

namespace BraceLink

namespace Settings

abbrev Result := Except Error

def refuse {α : Type} (path : Text) (defect : Defect) : Result α := .error (.invalid defect path)

def readText (path what : Text) : Value → Result Text
  | .text (c :: rest) => .ok (c :: rest)
  | _ => refuse path (.noText what)

/-- A text that is not empty, or nothing. -/
def readOptionalText (path what : Text) : Value → Result (Option Text)
  | .null => .ok none
  | value => (readText path what value).map some

/-- The value of the first key that the mapping has. -/
def pick (entries : List (Value × Value)) (keys : List Text) : Value :=
  (keys.findSome? (Value.get? entries)).getD .null

/-- The keys of an image in an entry for a name. -/
def targetImageKeys : List Text := ["image_url", "imageUrl", "image"]

def ruleImageKeys : List Text := ["image", "image_url", "imageUrl"]

def avatarKeys : List Text := ["avatar_url", "avatarUrl"]

def displayNameKeys : List Text := ["display_name", "displayName"]

def readTarget (path : Text) : Value → Result Target
  | .target target => .ok target
  | .text link => do return { link := ← readText path "link" (.text link) }
  | .map entries =>
    match Value.get? entries "link" with
    | none => refuse path (.missing "link")
    | some link => do
      let link ← readText path "link" link
      let image ← readOptionalText path "image_url" (pick entries targetImageKeys)
      return { link, image }
  | value => refuse path (.expected .target value.kindName)

def readProfile (path : Text) : Value → Result Profile
  | .profile profile => .ok profile
  | .map entries =>
    match Value.get? entries "link", pick entries avatarKeys with
    | none, _ => refuse path (.missing "link")
    | some _, .null => refuse path (.missing "avatar_url")
    | some link, avatar => do
      let link ← readText path "link" link
      let avatar ← readText path "avatar_url" avatar
      let displayName ← readOptionalText path "display_name" (pick entries displayNameKeys)
      return { link, avatar, displayName }
  | value => refuse path (.expected .mapping value.kindName)

def readPattern (path : Text) (value : Value) : Result Pattern := do
  let source ← readText path "pattern" value
  match Pattern.compile source with
  | .ok pattern => return pattern
  | .error (.malformed cause offset) => refuse path (.badPattern source cause offset)
  | .error error => throw (.pattern error)

def readPair (path : Text) (matcher image : Value) : Result ImageRule := do
  let matcher ←
    match matcher with
    | .pattern pattern => pure (Matcher.pattern pattern)
    | value => do pure (Matcher.exact (← readText path "matcher" value))
  return { matcher, image := ← readText path "image" image }

def readRule (path : Text) : Value → Result ImageRule
  | .rule rule => .ok rule
  | .map entries => do
    let image ← readText path "image" (pick entries ruleImageKeys)
    match Value.get? entries "pattern", Value.get? entries "match" with
    | some pattern, _ => return { matcher := .pattern (← readPattern path pattern), image }
    | none, some link => return { matcher := .exact (← readText path "match" link), image }
    | none, none => refuse path .noMatcher
  | .list [matcher, image] | .tuple [matcher, image] => readPair path matcher image
  | .bytes [first, second] => readPair path (.int first.toNat) (.int second.toNat)
  | _ => refuse path .noRule

def readChainEntry (path : Text) : Value → Result ChainEntry
  | .text name => .ok (.name name)
  | .handler handler => .ok (.handler handler)
  | value => refuse path (.expected .handler value.kindName)

/-- The entries of a mapping; nothing stands for none. -/
def readEntries (path : Text) : Value → Result (List (Value × Value))
  | .null => .ok []
  | .map entries => .ok entries
  | value => refuse path (.expected .mapping value.kindName)

/-- The items of a list; nothing stands for none. -/
def readItems (path : Text) : Value → Result (List Value)
  | .null => .ok []
  | .list items | .tuple items => .ok items
  | value => refuse path (.expected .list value.kindName)

def readName (key : Value) : Result Text :=
  if key.isWritable then .ok key.shown else .error .longNumber

def below (path entry : Text) : Text := path ++ '.' :: entry

/-- The table that a mapping gives when its values are read one by one. -/
def readTable {α : Type} (read : Text → Value → Result α) (path : Text) (value : Value) :
    Result (Table α) := do
  let entries ← readEntries path value
  let named ← entries.mapM fun entry => do
    let name ← readName entry.1
    return (name, ← read (below path name) entry.2)
  return Table.ofList named

def readList {α : Type} (read : Text → Value → Result α) (path : Text) (value : Value) :
    Result (List α) := do
  let items ← readItems path value
  items.zipIdx.mapM fun item => read (below path (Text.ofNat item.2)) item.1

inductive Section where
  | links
  | platforms
  | rules
  | chain
  deriving DecidableEq, Repr

def Section.name : Section → Text
  | .links => "links_map"
  | .platforms => "platform_users"
  | .rules => "image_overrides"
  | .chain => "handlers"

def Section.all : List Section := [.links, .platforms, .rules, .chain]

def Section.named? (name : Text) : Option Section := all.find? fun option => option.name = name

/-- The option with the given key, in either spelling. -/
def Section.ofKey? (key : Text) : Option Section :=
  if key = "linksMap".toList then some .links
  else if key = "platformUsers".toList then some .platforms
  else if key = "imageOverrides".toList then some .rules
  else named? key

/-- The option that a key of a mapping stands for. -/
def Section.ofValue? : Value → Option Section
  | .text key => ofKey? key
  | _ => none

/-- The values of the options; an option that is not given has none. -/
structure Sections where
  links : Value := .null
  platforms : Value := .null
  rules : Value := .null
  chain : Value := .null

namespace Sections

def get (sections : Sections) : Section → Value
  | .links => sections.links
  | .platforms => sections.platforms
  | .rules => sections.rules
  | .chain => sections.chain

def set (sections : Sections) (option : Section) (value : Value) : Sections :=
  match option with
  | .links => { sections with links := value }
  | .platforms => { sections with platforms := value }
  | .rules => { sections with rules := value }
  | .chain => { sections with chain := value }

/-- The chain that a value gives; nothing stands for the default chain. -/
def readChain : Value → Result (Option (List ChainEntry))
  | .null => .ok none
  | value => (readList readChainEntry Section.chain.name value).map some

/-- The settings that the values of the options give. -/
def read (sections : Sections) : Result Settings := do
  let links ← readTable readTarget Section.links.name sections.links
  let platforms ← readTable (readTable readProfile) Section.platforms.name sections.platforms
  let rules ← readList readRule Section.rules.name sections.rules
  let chain ← readChain sections.chain
  return { links, platforms, rules, chain }

/-- Refuses a key that stands for no option. -/
def refuseKey {α : Type} (key : Value) : Result α :=
  if key.isWritable then refuse [] (.unknownOption key.literal) else .error .longNumber

/-- Adds the options of a mapping to those that are given already. -/
def gather (given : List Section) (sections : Sections) : List (Value × Value) → Result Sections
  | [] => .ok sections
  | (key, value) :: rest =>
    match Section.ofValue? key with
    | none => refuseKey key
    | some option =>
      if option ∈ given then refuse [] (.givenTwice option.name)
      else gather (option :: given) (sections.set option value) rest

end Sections

/-- The settings that a mapping of options gives. -/
def ofValue (value : Value) : Result Settings := do
  let entries ← readEntries [] value
  let sections ← Sections.gather [] {} entries
  sections.read

/-- The settings themselves, if the value is some, and otherwise those that it gives as a mapping. -/
def ofValueOrSelf : Value → Result Settings
  | .settings settings => .ok settings
  | value => ofValue value

end Settings

end BraceLink
