import BraceLink.Settings.Read

/-!
# Settings from several places

Three of the options can be given on their own beside a mapping of options or complete settings. What counts as
not given on its own is passed over; nothing may be given in two places, and complete settings stand alone.
-/

namespace BraceLink.Settings

/-- Options as they are given: together, and some of them on their own. -/
structure Parts where
  options : Value := .map []
  links : Value := .map []
  platforms : Value := .map []
  rules : Value := .list []

/-- Why options cannot be combined. -/
inductive CombineError where
  | invalid (error : Error)
  /-- The options together are no pairs of keys and values. -/
  | noPairs
  /-- An item among the options is no pair, because it has another length. -/
  | badLength
  deriving DecidableEq, Repr

namespace Parts

def single (parts : Parts) : List (Section × Value) :=
  [(.links, parts.links), (.platforms, parts.platforms), (.rules, parts.rules)].filter fun entry =>
    !entry.2.isVoid

end Parts

def itemsOf? : Value → Option (List Value)
  | .list items | .tuple items | .set items => some items
  | .map entries => some (entries.map Prod.fst)
  | .text t => some (t.map fun c => .text [c])
  | .bytes data => some (data.map fun byte => .int byte.toNat)
  | _ => none

mutual

def isKey : Value → Bool
  | .list _ | .map _ | .set _ | .settings _ => false
  | .tuple items => areKeys items
  | _ => true

def areKeys : List Value → Bool
  | [] => true
  | item :: rest => isKey item && areKeys rest

end

def pairOf (value : Value) : Except CombineError (Value × Value) :=
  match itemsOf? value with
  | some [key, value] => if isKey key then .ok (key, value) else .error .noPairs
  | some _ => .error .badLength
  | none => .error .noPairs

def entriesOf (options : Value) : Except CombineError (List (Value × Value)) :=
  if options.isVoid then .ok []
  else
    match options with
    | .map entries => .ok entries
    | value =>
      match itemsOf? value with
      | none => .error .noPairs
      | some items => do
        let pairs ← items.mapM pairOf
        return pairs.foldl (fun done pair => Value.setKey pair.1 pair.2 done) []

/-- Adds an option to the entries of the others. -/
def addSingle (entries : List (Value × Value)) (entry : Section × Value) :
    Except CombineError (List (Value × Value)) :=
  if (Value.get? entries entry.1.name).isSome then
    .error (.invalid (.invalid .givenInBoth entry.1.name))
  else .ok (entries ++ [(.text entry.1.name, entry.2)])

/-- The settings that all options give. -/
def combine (parts : Parts) : Except CombineError Settings :=
  match parts.options with
  | .settings settings =>
    match parts.single with
    | [] => .ok settings
    | single =>
      .error (.invalid (.invalid .notAlone (Text.join ", " (single.map fun entry => entry.1.name))))
  | options => do
    let entries ← parts.single.foldlM addSingle (← entriesOf options)
    (ofValue (.map entries)).mapError .invalid

end BraceLink.Settings
