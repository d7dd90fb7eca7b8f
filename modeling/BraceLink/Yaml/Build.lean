import BraceLink.Yaml.Content
import BraceLink.Yaml.Document

/-!
# The value of a document

What is made of a node is made once. A scalar gives its value at once; a collection waits until its turn comes, and
gets what it holds then (`BuildM.fill`): first the root, then the collections in it in order, then those in them. So of
several errors the one on the outermost level counts, and on one level the one that comes first. A merge key brings in
the entries of other mappings before the own ones.
-/

namespace BraceLink.Yaml

/-- What is made of a node; the nodes inside of it are given by their numbers. -/
inductive Made where
  | single (value : Value)
  | list (items : List Nat)
  | mapping (entries : List (Value × Nat))
  | set (keys : List Value)
  | pairs (entries : List (Nat × Nat))

/-- The state of making values. -/
structure Building where
  graph : Graph
  /-- What has been made of nodes, the last first. -/
  made : List (Nat × Made) := []
  /-- The collections that are still empty. -/
  waiting : List Nat := []

/-- A step of making values. -/
abbrev BuildM := StateT Building (Except Error)

/-- The value of a node that is no collection. -/
def Graph.single (g : Graph) (n : Nat) : Except Error Value := do
  if !(g.kind n).isSingle then throw .malformed
  let text ← g.text (g.nodes.length + 1) n
  match g.kind n, g.content n with
  | .moment, .entries _ => throw .entryMoment
  | kind, _ => readScalar kind text

namespace BuildM

/-- Makes something of a node. -/
def make (n : Nat) : BuildM Made := do
  let s ← get
  match s.made.lookup n with
  | some made => return made
  | none =>
    if (s.graph.kind n).isCollection then
      set { s with made := (n, .list []) :: s.made, waiting := s.waiting ++ [n] }
      return .list []
    else
      let made := Made.single (← s.graph.single n)
      set { s with made := (n, made) :: s.made }
      return made

/-- Makes the key of an entry, which is no collection, and the value of the entry. -/
def makeEntry (entry : Nat × Nat) : BuildM (Value × Nat) := do
  match ← make entry.1 with
  | .single key =>
    let _ ← make entry.2
    return (key, entry.2)
  | _ => throw .malformed

/-- Makes a pair, which is written as a mapping with one entry. -/
def makePair (n : Nat) : BuildM (Nat × Nat) := do
  match (← get).graph.content n with
  | .entries [(first, second)] =>
    let _ ← make first
    let _ ← make second
    return (first, second)
  | _ => throw .malformed

/-- Makes what a collection holds. -/
def collect (n : Nat) : BuildM Made := do
  let g := (← get).graph
  match g.kind n, g.content n with
  | .sequence, .items items =>
    let _ ← items.mapM make
    return .list items
  | .pairs, .items items => return .pairs (← items.mapM makePair)
  | .mapping, .entries _ => return .mapping (← entries n)
  | .set, .entries _ => return .set ((← entries n).map Prod.fst)
  | _, _ => throw .malformed
where
  /-- Makes the entries of a mapping. -/
  entries (n : Nat) : BuildM (List (Value × Nat)) := do
    let s ← get
    let graph ← s.graph.flatten (s.graph.size + 1) n
    set { s with graph }
    (graph.entries n).mapM makeEntry

def fill (n : Nat) : BuildM Unit := do
  let made ← collect n
  modify fun s => { s with made := (n, made) :: s.made }

/-- Fills the collections that wait. -/
def fillAll : Nat → BuildM Unit
  | 0 => pure ()
  | fuel + 1 => do
    match (← get).waiting with
    | [] => pure ()
    | n :: waiting =>
      modify fun s => { s with waiting }
      fill n
      fillAll fuel

end BuildM

/-- Settings have no more levels than this. -/
def maxLevels : Nat := 6

/-- The value of a node inside of others. A node that stands in itself has no end and is cut off where no settings
reach. -/
def Building.value (s : Building) : (fuel : Nat) → (around : List Nat) → Nat → Value
  | 0, _, _ => .null
  | fuel + 1, around, n =>
    if maxLevels < around.length && n ∈ around then .null
    else
      let inside := s.value fuel (n :: around)
      match s.made.lookup n with
      | none => .null
      | some (.single value) => value
      | some (.list items) => .list (items.map inside)
      | some (.mapping entries) => .ofEntries (entries.map fun (key, n) => (key, inside n))
      | some (.set keys) => .ofKeys keys
      | some (.pairs entries) => .list (entries.map fun (a, b) => .tuple [inside a, inside b])

def Document.value (d : Document) : Except Error Value := do
  let levels := d.graph.nodes.length + 1
  let (_, s) ← (do let _ ← BuildM.make d.root; BuildM.fillAll levels).run { graph := d.graph }
  return s.value (levels + maxLevels) [] d.root

/-- The value of the only document of a text; nothing for a text without document. -/
def value (text : Text) : Except Error Value := do
  match ← document text with
  | none => return .null
  | some document => document.value

/-- Whether the document of a text gives the code of a half of a character. -/
def writesHalves (text : Text) : Bool :=
  match document text with
  | .ok (some document) => document.halves
  | _ => false

end BraceLink.Yaml
