import BraceLink.Yaml.Layout
import BraceLink.Yaml.Node

/-!
# The node of a document

Reads the tokens of a text as one document. A name can be given once only, and has to be given before it is
used, but it can be used inside of its own node.
-/

namespace BraceLink.Yaml

/-- The state of reading nodes. -/
structure Reading where
  layout : Layout
  /-- What the handles of tags stand for. -/
  handles : List (Text × Text) := []
  /-- The numbers of the nodes with names. -/
  anchors : List (Text × Nat) := []
  graph : Graph := {}

/-- A step of reading nodes. -/
abbrev ReadM := StateT Reading (Except Error)

namespace ReadM

def peek? : ReadM (Option Token) := do
  let s ← get
  let layout ← s.layout.ahead (s.layout.cursor.rest.length + 2)
  set { s with layout }
  return layout.queue.head?

/-- Moves behind the next token. -/
def skip : ReadM Unit := modify fun s => { s with layout := s.layout.take }

/-- Moves behind the next token if it is the given one, and tells whether it was. -/
def accept (token : Token) : ReadM Bool := do
  if (← peek?) = some token then
    skip
    return true
  else return false

def isNext (tokens : List Token) : ReadM Bool := do
  return (← peek?).any (· ∈ tokens)

/-- The handles that a document has without any directive. -/
def commonHandles : List (Text × Text) := [(['!'], ['!']), (['!', '!'], Kind.tagStart)]

def tagText (written : WrittenTag) : ReadM Text := do
  match written.handle with
  | none => return written.rest
  | some handle =>
    match (← get).handles.lookup handle with
    | some start => return start ++ written.rest
    | none => throw .malformed

/-- The properties before a node: its name and its tag. -/
def properties : ReadM (Option Text × Option Text) := do
  match (← peek?) with
  | some (.anchor name) =>
    skip
    match (← peek?) with
    | some (.tag written) =>
      skip
      return (some name, some (← tagText written))
    | _ => return (some name, none)
  | some (.tag written) =>
    skip
    match (← peek?) with
    | some (.anchor name) =>
      skip
      return (some name, some (← tagText written))
    | _ => return (none, some (← tagText written))
  | _ => return (none, none)

def kindOf (tag : Option Text) (usual : Kind) : Kind :=
  match tag with
  | none | some ['!'] => usual
  | some tag => Kind.ofTag tag

def scalarKind (tag : Option Text) (content : Text) (isPlain : Bool) : Kind :=
  match tag with
  | some ['!'] => Kind.ofPlain content
  | some tag => Kind.ofTag tag
  | none => if isPlain then Kind.ofPlain content else .text

/-- Makes sure that the name is a new one. -/
def checkNew (anchor : Option Text) : ReadM Unit := do
  let known := (← get).anchors
  if anchor.any fun name => (known.lookup name).isSome then throw .malformed

/-- Adds a node, perhaps with a name, and gives its number. -/
def add (anchor : Option Text) (node : Node) : ReadM Nat := do
  let number := (← get).graph.nodes.length
  modify fun s =>
    { s with
      graph := ⟨s.graph.nodes ++ [node]⟩
      anchors := (anchor.toList.map fun name => (name, number)) ++ s.anchors }
  return number

/-- Adds a node whose name can be used inside of it. -/
def addAround (anchor : Option Text) (kind : Kind) (read : ReadM Content) : ReadM Nat := do
  let number ← add anchor ⟨kind, .items []⟩
  let content ← read
  modify fun s => { s with graph := s.graph.set number ⟨kind, content⟩ }
  return number

/-- The node that a name stands for. -/
def noted (name : Text) : ReadM Nat := do
  match (← get).anchors.lookup name with
  | none => throw .malformed
  | some number => return number

structure Place where
  /-- Whether block collections can stand there. -/
  blocks : Bool
  /-- Whether a sequence can stand there whose dashes are not indented. -/
  bareItems : Bool := false

/-- Adds a node without content, which must at least have a name or a tag. -/
def addEmpty (anchor tag : Option Text) : ReadM Nat := do
  if anchor.isNone && tag.isNone then throw .malformed
  add anchor ⟨scalarKind tag [] true, .text []⟩

mutual

def node (place : Place) : Nat → ReadM Nat
  | 0 => throw .malformed
  | fuel + 1 => do
    if let some (.again name) ← peek? then
      skip
      return ← noted name
    let (anchor, tag) ← properties
    let next ← peek?
    checkNew anchor
    match next with
    | some (.scalar content isPlain) =>
      skip
      add anchor ⟨scalarKind tag content isPlain, .text content⟩
    | some .openSequence =>
      skip
      addAround anchor (kindOf tag .sequence) do return .items (← flowItems true fuel)
    | some .openMapping =>
      skip
      addAround anchor (kindOf tag .mapping) do return .entries (← flowEntries true fuel)
    | some .item =>
      if place.bareItems then
        addAround anchor (kindOf tag .sequence) do return .items (← bareItems fuel)
      else addEmpty anchor tag
    | some .blockSequence =>
      if place.blocks then
        skip
        addAround anchor (kindOf tag .sequence) do return .items (← blockItems fuel)
      else addEmpty anchor tag
    | some .blockMapping =>
      if place.blocks then
        skip
        addAround anchor (kindOf tag .mapping) do return .entries (← blockEntries fuel)
      else addEmpty anchor tag
    | _ => addEmpty anchor tag

def blockItems : Nat → ReadM (List Nat)
  | 0 => throw .malformed
  | fuel + 1 => do
    if ← accept .item then
      let item ←
        if ← isNext [.item, .blockEnd] then add none .empty else node { blocks := true } fuel
      return item :: (← blockItems fuel)
    else if ← accept .blockEnd then return []
    else throw .malformed

/-- Reads the items of a sequence whose dashes are not indented. -/
def bareItems : Nat → ReadM (List Nat)
  | 0 => throw .malformed
  | fuel + 1 => do
    if ← accept .item then
      let item ←
        if ← isNext [.item, .key, .value, .blockEnd] then add none .empty
        else node { blocks := true } fuel
      return item :: (← bareItems fuel)
    else return []

def blockEntries : Nat → ReadM (List (Nat × Nat))
  | 0 => throw .malformed
  | fuel + 1 => do
    if ← accept .key then
      let key ← blockPart fuel
      let value ← if ← accept .value then blockPart fuel else add none .empty
      return (key, value) :: (← blockEntries fuel)
    else if ← accept .blockEnd then return []
    else throw .malformed

/-- Reads a key or a value of a block mapping. -/
def blockPart : Nat → ReadM Nat
  | 0 => throw .malformed
  | fuel + 1 => do
    if ← isNext [.key, .value, .blockEnd] then add none .empty
    else node { blocks := true, bareItems := true } fuel

/-- Reads the items of a sequence in brackets. -/
def flowItems (isFirst : Bool) : Nat → ReadM (List Nat)
  | 0 => throw .malformed
  | fuel + 1 => do
    if ← accept .closeSequence then return []
    if !isFirst then
      if !(← accept .comma) then throw .malformed
    if ← accept .key then
      let item ← addAround none .mapping do
        return .entries [← flowEntry [.comma, .closeSequence] fuel]
      return item :: (← flowItems false fuel)
    else if ← accept .closeSequence then return []
    else
      let item ← node { blocks := false } fuel
      return item :: (← flowItems false fuel)

/-- Reads the entries of a mapping in brackets. -/
def flowEntries (isFirst : Bool) : Nat → ReadM (List (Nat × Nat))
  | 0 => throw .malformed
  | fuel + 1 => do
    if ← accept .closeMapping then return []
    if !isFirst then
      if !(← accept .comma) then throw .malformed
    if ← accept .key then
      let entry ← flowEntry [.comma, .closeMapping] fuel
      return entry :: (← flowEntries false fuel)
    else if ← accept .closeMapping then return []
    else
      let key ← node { blocks := false } fuel
      let value ← add none .empty
      return (key, value) :: (← flowEntries false fuel)

/-- Reads an entry between brackets behind the mark of its key. -/
def flowEntry (ends : List Token) : Nat → ReadM (Nat × Nat)
  | 0 => throw .malformed
  | fuel + 1 => do
    let key ← flowPart (.value :: ends) fuel
    let value ← if ← accept .value then flowPart ends fuel else add none .empty
    return (key, value)

/-- Reads a key or a value between brackets; it is empty if one of the given tokens follows. -/
def flowPart (ends : List Token) : Nat → ReadM Nat
  | 0 => throw .malformed
  | fuel + 1 => do
    if ← isNext ends then add none .empty else node { blocks := false } fuel

end

def directives (version : Bool) : Nat → ReadM Unit
  | 0 => throw .malformed
  | fuel + 1 => do
    match ← peek? with
    | some (.directive found) =>
      skip
      match found with
      | .version major =>
        if version || major ≠ 1 then throw .malformed
        directives true fuel
      | .handle handle start =>
        if ((← get).handles.lookup handle).isSome then throw .malformed
        modify fun s => { s with handles := (handle, start) :: s.handles }
        directives version fuel
      | .other => directives version fuel
    | _ => modify fun s => { s with handles := s.handles ++ commonHandles }

/-- Moves behind marks for the end of a document. -/
def skipEnds : Nat → ReadM Unit
  | 0 => throw .malformed
  | fuel + 1 => do
    if ← accept .documentEnd then skipEnds fuel

/-- Makes sure that no other document follows. -/
def finish (fuel : Nat) : ReadM Unit := do
  skipEnds fuel
  if (← peek?).isSome then
    modify fun s => { s with handles := [] }
    directives false fuel
    throw .malformed

/-- Reads the root of a document behind the mark of its start. -/
def root (fuel : Nat) : ReadM Nat := do
  match ← peek? with
  | none | some (.directive _) | some .documentStart | some .documentEnd => add none .empty
  | _ => node { blocks := true } fuel

/-- Reads the only document of a text and gives the number of its root; there may be none at all. -/
def document (fuel : Nat) : ReadM (Option Nat) := do
  match ← peek? with
  | none => return none
  | some (.directive _) | some .documentStart =>
    directives false fuel
    if !(← accept .documentStart) then throw .malformed
    let number ← root fuel
    finish fuel
    return some number
  | some _ =>
    modify fun s => { s with handles := commonHandles }
    let number ← node { blocks := true } fuel
    finish fuel
    return some number

end ReadM

def isDocumentChar (c : Char) : Bool :=
  let n := c.toNat
  c = '\t' || c = '\n' || c = '\r' || (0x20 ≤ n && n ≤ 0x7E) || n = 0x85 ||
    (0xA0 ≤ n && n ≤ 0xFFFD) || 0x10000 ≤ n

structure Document where
  graph : Graph
  root : Nat
  /-- Whether the code of a half of a character stands in it, which is none in a text. -/
  halves : Bool

def document (text : Text) : Except Error (Option Document) :=
  if text.all isDocumentChar then do
    let (root, s) ← (ReadM.document (8 * text.length + 8)).run { layout := .start text }
    return root.map fun root => { graph := s.graph, root, halves := s.layout.cursor.halves }
  else .error .malformed

end BraceLink.Yaml
