import BraceLink.Yaml.Error
import BraceLink.Yaml.Kind

/-!
# Nodes

A document is a graph of scalars, sequences and mappings. The nodes have numbers, and a collection holds the numbers
of the nodes in it: a node that is used again by its name stands in several places, and may stand in itself.
-/

namespace BraceLink.Yaml

inductive Content where
  | text (text : Text)
  | items (items : List Nat)
  | entries (entries : List (Nat × Nat))
  deriving DecidableEq, Repr

structure Node where
  kind : Kind
  content : Content
  deriving DecidableEq, Repr

def Node.empty : Node := ⟨.null, .text []⟩

/-- The nodes of a document by their numbers. -/
structure Graph where
  nodes : List Node := []

namespace Graph

def node (g : Graph) (n : Nat) : Node := g.nodes[n]?.getD .empty

def kind (g : Graph) (n : Nat) : Kind := (g.node n).kind

def content (g : Graph) (n : Nat) : Content := (g.node n).content

def entries (g : Graph) (n : Nat) : List (Nat × Nat) :=
  match g.content n with
  | .entries entries => entries
  | _ => []

/-- Puts another node in the place of a node. -/
def set (g : Graph) (n : Nat) (node : Node) : Graph := ⟨g.nodes.set n node⟩

/-- The node behind the default entry of a mapping. -/
def default? (g : Graph) (n : Nat) : Option Nat :=
  ((g.entries n).find? fun entry => g.kind entry.1 = .default).map Prod.snd

/-- The text that stands for a node where a scalar is needed: that of a scalar, or the one that stands for the default
entry of a mapping. Only entries that lead back to themselves pass more nodes than there are. -/
def text (g : Graph) : (fuel : Nat) → Nat → Except Error Text
  | 0, _ => .error .endless
  | fuel + 1, n =>
    match g.content n, g.default? n with
    | .text text, _ => .ok text
    | _, some inner => g.text fuel inner
    | _, none => .error .malformed

/-! ## Merged entries -/

/-- Reads a key as a text that would stand for the mapping around it. -/
def retag (g : Graph) (n : Nat) : Graph :=
  if g.kind n = .default then g.set n { g.node n with kind := .text } else g

/-- Takes the first merge key out of a mapping, and gives the node behind it. -/
def takeMerge? (g : Graph) (n : Nat) : Option (Nat × Graph) :=
  let isOther (entry : Nat × Nat) : Bool := g.kind entry.1 ≠ .merge
  match (g.entries n).dropWhile isOther with
  | [] => none
  | (_, source) :: rest =>
    some (source, g.set n ⟨g.kind n, .entries ((g.entries n).takeWhile isOther ++ rest)⟩)

/-- Puts entries in front of those of a mapping. -/
def prepend (g : Graph) (n : Nat) (entries : List (Nat × Nat)) : Graph :=
  g.set n ⟨g.kind n, .entries (entries ++ g.entries n)⟩

/-- The entries of a mapping behind its own merge keys, which are taken out before. -/
def entriesBy (flatten : Graph → Nat → Except Error Graph) (g : Graph) (n : Nat) :
    Except Error (List (Nat × Nat) × Graph) :=
  match g.content n with
  | .entries _ => do
    let g ← flatten g n
    return (g.entries n, g)
  | _ => .error .malformed

/-- The entries that a node brings in: those of a mapping, or of several mappings, the last one first. -/
def bring (flatten : Graph → Nat → Except Error Graph) (g : Graph) (n : Nat) :
    Except Error (List (Nat × Nat) × Graph) :=
  match g.content n with
  | .items items => items.foldlM (fun (brought, g) item => do
      let (entries, g) ← entriesBy flatten g item
      return (entries ++ brought, g)) ([], g)
  | _ => entriesBy flatten g n

/-- Takes the merge keys out of a mapping and puts the entries that they bring in before the others. The entries of a
mapping that is brought in are flattened first; each step takes a merge key out for good. -/
def flatten : (fuel : Nat) → Graph → Nat → Except Error Graph
  | 0, _, _ => .error .malformed
  | fuel + 1, g, n =>
    match g.takeMerge? n with
    | none => .ok ((g.entries n).foldl (fun g entry => g.retag entry.1) g)
    | some (source, g) => do
      let (brought, g) ← bring (flatten fuel) g source
      let g ← flatten fuel g n
      return g.prepend n brought

/-- The number of entries of all mappings. -/
def size (g : Graph) : Nat :=
  g.nodes.foldl (fun size node =>
    match node.content with
    | .entries entries => size + entries.length
    | _ => size) 0

end Graph

end BraceLink.Yaml
