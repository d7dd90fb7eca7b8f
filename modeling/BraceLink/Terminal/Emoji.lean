import BraceLink.Terminal.EmojiTable
import BraceLink.Text.Blank
import BraceLink.Text.Lowercase

/-!
# Names of emoji

A name between two colons stands for an emoji. The name may end with the form that is asked for.

* `replaceEmoji`: the text with emoji for their names.
-/

namespace BraceLink.Terminal

def emojiEntries (table : Text) : List (Text × Text) :=
  (Text.words table).filterMap fun entry =>
    match Text.splitOn ':' entry with
    | [name, emoji] => some (name, emoji)
    | _ => none

def emojiNames : List (Text × Text) := emojiEntries emojiTable.toList

/-- The emoji of a name in letters of either case. -/
def emoji? (name : Text) : Option Text := emojiNames.lookup (Text.lower name)

/-- The text before the last hyphen and the selector for the form named behind it. -/
def emojiForm (name : Text) : Text × Text :=
  match Text.cutLast '-' name with
  | (some before, form) =>
    if form = "text".toList then (before, ['\uFE0E'])
    else if form = "emoji".toList then (before, ['\uFE0F'])
    else (name, [])
  | (none, _) => (name, [])

/-- What a name between colons stands for. -/
def emojiText (name : Text) : Text :=
  ((emoji? (emojiForm name).1).map (· ++ (emojiForm name).2)).getD (':' :: name ++ [':'])

/-- The text with emoji for their names; `name` is what has been read since the last colon, in reverse
order, if it can be a name. -/
def replaceEmojiAfter (name : Option Text) : Text → Text
  | [] => (name.map fun name => ':' :: name.reverse).getD []
  | c :: rest =>
    match name with
    | none => if c = ':' then replaceEmojiAfter (some []) rest else c :: replaceEmojiAfter none rest
    | some name =>
      if c = ':' then emojiText name.reverse ++ replaceEmojiAfter none rest
      else if Text.isBlank c then ':' :: name.reverse ++ c :: replaceEmojiAfter none rest
      else replaceEmojiAfter (some (c :: name)) rest

def replaceEmoji (text : Text) : Text := replaceEmojiAfter none text

end BraceLink.Terminal
