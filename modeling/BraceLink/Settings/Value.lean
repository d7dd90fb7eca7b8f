import BraceLink.Calendar
import BraceLink.Number.Numeral
import BraceLink.Number.Shortest
import BraceLink.Settings.Basic
import BraceLink.Text.Quoted

/-!
# Values

Settings are given as values: plain data as a file holds it, or parts of settings that are complete
already.

* `Value.sameKey`: whether two values are one key. Numbers are compared as numbers, so `1`, `1.0` and
  `true` are one key.
* `Value.literal`, `Value.shown`: a value in a message.
* `Value.isWritable`: whether there is such a text. Whole numbers with too many digits have none.
* `Value.ofEntries`, `Value.ofKeys`: the mapping that results from setting keys in order, and the set of keys.
-/

namespace BraceLink

/-- Data that settings are read from. -/
inductive Value where
  | null
  | bool (b : Bool)
  | int (n : Int)
  | float (x : Binary64)
  | text (t : Text)
  | bytes (data : List UInt8)
  | date (d : Date)
  | moment (m : Moment)
  | list (items : List Value)
  | tuple (items : List Value)
  | set (items : List Value)
  | map (entries : List (Value × Value))
  /-- A compiled pattern for texts. -/
  | pattern (p : Pattern)
  | target (t : Target)
  | profile (p : Profile)
  | rule (r : ImageRule)
  | handler (h : Handler)
  | settings (s : Settings)

namespace Value

def number? : Value → Option (Int ⊕ Binary64)
  | .bool b => some (.inl b.toNat)
  | .int n => some (.inl n)
  | .float x => some (.inr x)
  | _ => none

/-- Whether two numbers are equal. -/
def sameNumber : Int ⊕ Binary64 → Int ⊕ Binary64 → Bool
  | .inl m, .inl n => m = n
  | .inl n, .inr x => x.equalsInt n
  | .inr x, .inl n => x.equalsInt n
  | .inr x, .inr y => x.equals y

mutual

/-- Whether two values are one key of a mapping. -/
def sameKey : Value → Value → Bool
  | .text a, .text b => a = b
  | .null, .null => true
  | .bytes a, .bytes b => a = b
  | .date a, .date b => a = b
  | .moment a, .moment b => a.same b
  | .tuple a, .tuple b => sameKeys a b
  | a, b =>
    match number? a, number? b with
    | some m, some n => sameNumber m n
    | _, _ => false

/-- Whether two lists hold the same keys in the same order. -/
def sameKeys : List Value → List Value → Bool
  | [], [] => true
  | a :: as, b :: bs => sameKey a b && sameKeys as bs
  | _, _ => false

end

/-- Sets a key in the entries of a mapping; a key that is there stays as it is and where it is. -/
def setKey (key value : Value) : List (Value × Value) → List (Value × Value)
  | [] => [(key, value)]
  | entry :: rest =>
    if sameKey entry.1 key then (entry.1, value) :: rest else entry :: setKey key value rest

/-- The mapping that results from setting the keys in order. -/
def ofEntries (entries : List (Value × Value)) : Value :=
  .map (entries.foldl (fun done entry => setKey entry.1 entry.2 done) [])

def ofKeys (keys : List Value) : Value :=
  .set ((keys.foldl (fun done key => setKey key .null done) []).map Prod.fst)

def get? (entries : List (Value × Value)) (key : Text) : Option Value :=
  (entries.find? fun entry => sameKey entry.1 (.text key)).map Prod.snd

def kindName : Value → Text
  | .null => "NoneType"
  | .bool _ => "bool"
  | .int _ => "int"
  | .float _ => "float"
  | .text _ => "str"
  | .bytes _ => "bytes"
  | .date _ => "date"
  | .moment _ => "datetime"
  | .list _ => "list"
  | .tuple _ => "tuple"
  | .set _ => "set"
  | .map _ => "dict"
  | .pattern _ => "Pattern"
  | .target _ => "LinkTarget"
  | .profile _ => "PlatformUser"
  | .rule _ => "ImageOverride"
  | .handler h => h.label
  | .settings _ => "MagicLinkOptions"

mutual

/-- The expression that a message shows for a value. -/
def literal : Value → Text
  | .null => "None"
  | .bool true => "True"
  | .bool false => "False"
  | .int n => Text.ofInt n
  | .float x => x.write
  | .text t => Text.quoted t
  | .bytes data => Text.quotedBytes data
  | .date d => d.literal
  | .moment m => m.literal
  | .list items => '[' :: literals items ++ "]"
  | .tuple [item] => '(' :: literal item ++ ",)"
  | .tuple items => '(' :: literals items ++ ")"
  | .set [] => "set()"
  | .set items => Text.openBrace :: literals items ++ [Text.closeBrace]
  | .map entries => Text.openBrace :: entryLiterals entries ++ [Text.closeBrace]
  | .pattern p => p.literal
  | .target t =>
    "LinkTarget(link=" ++ Text.quoted t.link ++ ", image_url=" ++ Text.quotedOption t.image ++ ")"
  | .profile p =>
    "PlatformUser(link=" ++ Text.quoted p.link ++ ", avatar_url=" ++ Text.quoted p.avatar ++ ", display_name=" ++
      Text.quotedOption p.displayName ++ ")"
  | .rule r => r.literal
  | .handler h => h.literal
  -- settings are never shown, for they cannot be keys
  | .settings _ => "MagicLinkOptions"

/-- The expressions of several values, separated by commas. -/
def literals : List Value → Text
  | [] => []
  | [item] => literal item
  | item :: next :: rest => literal item ++ ", " ++ literals (next :: rest)

/-- The expressions of the entries of a mapping, separated by commas. -/
def entryLiterals : List (Value × Value) → Text
  | [] => []
  | [(key, value)] => literal key ++ ": " ++ literal value
  | (key, value) :: next :: rest =>
    literal key ++ ": " ++ literal value ++ ", " ++ entryLiterals (next :: rest)

end

/-- A value as a name: a text stands for itself. -/
def shown : Value → Text
  | .text t => t
  | .date d => d.shown
  | .moment m => m.shown
  | v => v.literal

mutual

/-- Whether no whole number in the value has more digits than can be written. -/
def isWritable : Value → Bool
  | .int n => n.natAbs < Nat.pow 10 Number.maxDigits
  | .list items | .tuple items | .set items => areWritable items
  | .map entries => areWritableEntries entries
  | _ => true

def areWritable : List Value → Bool
  | [] => true
  | item :: rest => isWritable item && areWritable rest

def areWritableEntries : List (Value × Value) → Bool
  | [] => true
  | (key, value) :: rest => isWritable key && isWritable value && areWritableEntries rest

end

/-- Whether the value counts as not given: nothing, false, zero, or something empty. -/
def isVoid : Value → Bool
  | .null => true
  | .bool b => !b
  | .int n => n = 0
  | .float x => x.isZero
  | .text t => t.isEmpty
  | .bytes data => data.isEmpty
  | .list items | .tuple items | .set items => items.isEmpty
  | .map entries => entries.isEmpty
  | _ => false

end Value

end BraceLink
