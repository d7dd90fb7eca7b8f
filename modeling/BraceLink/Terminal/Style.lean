import BraceLink.Number.Numeral
import BraceLink.Text.Blank
import BraceLink.Text.Lowercase

/-!
# Styles

A style is written as words: attributes, `not` with an attribute, a colour, `on` with a colour of the
ground, and `link` with an address. Two ways to write one style have the same canonical form, by which
a closing mark finds the mark that it closes.

* `Style.read`: the style of a text.
* `Style.canonical`: the canonical form of a text, be it a style or not.
-/

namespace BraceLink.Terminal

/-- The attributes of a style in their canonical order. -/
def attributeNames : List Text :=
  List.map String.toList
    ["bold", "dim", "italic", "underline", "blink", "blink2", "reverse", "conceal", "strike",
     "underline2", "frame", "encircle", "overline"]

def attributeShortNames : List (Text × Text) :=
  List.map (fun (short, name) => (String.toList short, String.toList name))
    [("b", "bold"), ("d", "dim"), ("i", "italic"), ("u", "underline"), ("r", "reverse"),
     ("c", "conceal"), ("s", "strike"), ("uu", "underline2"), ("o", "overline")]

def colourNames : List Text :=
  List.map String.toList
    ["black", "red", "green", "yellow", "blue", "magenta", "cyan", "white", "bright_black",
     "bright_red", "bright_green", "bright_yellow", "bright_blue", "bright_magenta", "bright_cyan",
     "bright_white", "grey0", "gray0", "navy_blue", "dark_blue", "blue3", "blue1", "dark_green",
     "deep_sky_blue4", "dodger_blue3", "dodger_blue2", "green4", "spring_green4", "turquoise4",
     "deep_sky_blue3", "dodger_blue1", "dark_cyan", "light_sea_green", "deep_sky_blue2",
     "deep_sky_blue1", "green3", "spring_green3", "cyan3", "dark_turquoise", "turquoise2",
     "green1", "spring_green2", "spring_green1", "medium_spring_green", "cyan2", "cyan1",
     "purple4", "purple3", "blue_violet", "grey37", "gray37", "medium_purple4", "slate_blue3",
     "royal_blue1", "chartreuse4", "pale_turquoise4", "steel_blue", "steel_blue3",
     "cornflower_blue", "dark_sea_green4", "cadet_blue", "sky_blue3", "chartreuse3", "sea_green3",
     "aquamarine3", "medium_turquoise", "steel_blue1", "sea_green2", "sea_green1",
     "dark_slate_gray2", "dark_red", "dark_magenta", "orange4", "light_pink4", "plum4",
     "medium_purple3", "slate_blue1", "wheat4", "grey53", "gray53", "light_slate_grey",
     "light_slate_gray", "medium_purple", "light_slate_blue", "yellow4", "dark_sea_green",
     "light_sky_blue3", "sky_blue2", "chartreuse2", "pale_green3", "dark_slate_gray3", "sky_blue1",
     "chartreuse1", "light_green", "aquamarine1", "dark_slate_gray1", "deep_pink4",
     "medium_violet_red", "dark_violet", "purple", "medium_orchid3", "medium_orchid",
     "dark_goldenrod", "rosy_brown", "grey63", "gray63", "medium_purple2", "medium_purple1",
     "dark_khaki", "navajo_white3", "grey69", "gray69", "light_steel_blue3", "light_steel_blue",
     "dark_olive_green3", "dark_sea_green3", "light_cyan3", "light_sky_blue1", "green_yellow",
     "dark_olive_green2", "pale_green1", "dark_sea_green2", "pale_turquoise1", "red3",
     "deep_pink3", "magenta3", "dark_orange3", "indian_red", "hot_pink3", "hot_pink2", "orchid",
     "orange3", "light_salmon3", "light_pink3", "pink3", "plum3", "violet", "gold3",
     "light_goldenrod3", "tan", "misty_rose3", "thistle3", "plum2", "yellow3", "khaki3",
     "light_yellow3", "grey84", "gray84", "light_steel_blue1", "yellow2", "dark_olive_green1",
     "dark_sea_green1", "honeydew2", "light_cyan1", "red1", "deep_pink2", "deep_pink1", "magenta2",
     "magenta1", "orange_red1", "indian_red1", "hot_pink", "medium_orchid1", "dark_orange",
     "salmon1", "light_coral", "pale_violet_red1", "orchid2", "orchid1", "orange1", "sandy_brown",
     "light_salmon1", "light_pink1", "pink1", "plum1", "gold1", "light_goldenrod2",
     "navajo_white1", "misty_rose1", "thistle1", "yellow1", "light_goldenrod1", "khaki1", "wheat1",
     "cornsilk1", "grey100", "gray100", "grey3", "gray3", "grey7", "gray7", "grey11", "gray11",
     "grey15", "gray15", "grey19", "gray19", "grey23", "gray23", "grey27", "gray27", "grey30",
     "gray30", "grey35", "gray35", "grey39", "gray39", "grey42", "gray42", "grey46", "gray46",
     "grey50", "gray50", "grey54", "gray54", "grey58", "gray58", "grey62", "gray62", "grey66",
     "gray66", "grey70", "gray70", "grey74", "gray74", "grey78", "gray78", "grey82", "gray82",
     "grey85", "gray85", "grey89", "gray89", "grey93", "gray93"]

/-- Why a text is no style. -/
inductive StyleError where
  /-- A word has no meaning where it stands. -/
  | unknown
  /-- A share of a colour is no number. -/
  | noShare
  deriving DecidableEq, Repr

def attribute? (word : Text) : Option Text :=
  match attributeShortNames.lookup word with
  | some name => some name
  | none => if attributeNames.contains word then some word else none

/-- Whether the text is a numeral up to 255. -/
def isShare (digits : Text) : Bool :=
  !digits.isEmpty && digits.all Char.isDigit && Text.decimalNumber digits ≤ 255

/-- What stands between the name with its opening parenthesis and the closing one. -/
def argument? (name word : Text) : Option Text := do
  let rest ← Text.dropPrefix? (name ++ ['(']) word
  if rest.getLast? = some ')' then some rest.dropLast else none

/-- The colour of three shares, in digits of any script. -/
def readShares (shares : List Text) : Except StyleError Unit :=
  if shares.any fun share => !share.all Text.isDigit then .error .unknown
  else if shares.length ≠ 3 then .error .unknown
  else if shares.any fun share => share.isEmpty || Number.maxDigits < share.length then .error .noShare
  else if shares.all fun share => (Number.naturalIn? 10 share).any (· ≤ 255) then .ok ()
  else .error .unknown

/-- The colour of a word: a name, six hexadecimal digits, a number or three shares. -/
def readColour (word : Text) : Except StyleError Text := do
  let word := Text.lower word
  if word = "default".toList ∨ colourNames.contains word then return word
  match Text.dropPrefix? ['#'] word with
  | some digits =>
    if digits.length = 6 ∧ digits.all Text.isHexDigit then return word else throw .unknown
  | none =>
    match argument? "color" word with
    | some digits => if digits.length ≤ 3 ∧ isShare digits then return word else throw .unknown
    | none =>
      match argument? "rgb" word with
      | some shares =>
        if shares.isEmpty then throw .unknown
        readShares (Text.splitOn ',' shares)
        return word
      | none => throw .unknown

structure Style where
  /-- The attributes that are given, each set or cleared. -/
  attributes : List (Text × Bool) := []
  colour : Option Text := none
  ground : Option Text := none
  link : Option Text := none
  deriving DecidableEq

namespace Style

/-- The style with an attribute set or cleared. -/
def withAttribute (style : Style) (name : Text) (value : Bool) : Style :=
  { style with attributes := (name, value) :: style.attributes }

def readWords (style : Style) : List Text → Except StyleError Style
  | [] => .ok style
  | word :: rest =>
    let small := Text.lower word
    if small = "on".toList then
      match rest with
      | [] => .error .unknown
      | colour :: rest => do
        let ground ← readColour colour
        readWords { style with ground := some ground } rest
    else if small = "not".toList then
      match rest with
      | [] => .error .unknown
      | word :: rest =>
        match attribute? word with
        | some name => readWords (style.withAttribute name false) rest
        | none => .error .unknown
    else if small = "link".toList then
      match rest with
      | [] => .error .unknown
      | target :: rest => readWords { style with link := some target } rest
    else
      match attribute? small with
      | some name => readWords (style.withAttribute name true) rest
      | none => do
        let colour ← readColour small
        readWords { style with colour := some colour } rest

def read (text : Text) : Except StyleError Style :=
  if Text.strip text = "none".toList then .ok {} else readWords {} (Text.words text)

/-- The words of a style in canonical order. -/
def words (style : Style) : List Text :=
  attributeNames.flatMap (fun name =>
    match style.attributes.lookup name with
    | some true => [name]
    | some false => ["not".toList, name]
    | none => []) ++
  style.colour.toList ++
  style.ground.toList.flatMap (fun ground => ["on".toList, ground]) ++
  style.link.toList.flatMap (fun link => ["link".toList, link])

/-- The style in canonical form. -/
def shown (style : Style) : Text :=
  if style.words.isEmpty then "none" else Text.join [' '] style.words

/-- The canonical form of a text; what is no style is only trimmed and written in small letters. -/
def canonical (text : Text) : Except StyleError Text :=
  match read text with
  | .ok style => .ok style.shown
  | .error .unknown => .ok (Text.lower (Text.strip text))
  | .error .noShare => .error .noShare

end Style

end BraceLink.Terminal
