import BraceLink.Pattern.Letter

/-!
# Pattern expressions

The tree of a pattern. Modes such as ignoring case are resolved when the tree is built, so every leaf
says by itself what it accepts.

* `Single.accepts`: the characters that a leaf stands for.
* `Expr.width`: how many characters an expression can take at least and at most.
* `Expr.defect?`: what forbids the use of an expression that is otherwise well formed.
-/

namespace BraceLink.Pattern

/-- Named classes of characters. -/
inductive Category where
  | digit
  | space
  | word
  deriving DecidableEq, Repr

/-- Whether the character belongs to the class; `ascii` limits the class to ASCII. -/
def Category.holds (category : Category) (ascii : Bool) (c : Char) : Bool :=
  match category, ascii with
  | .digit, true => c.isDigit
  | .digit, false => Text.isDigit c
  | .space, true => c = ' ' || (0x09 ≤ c.toNat && c.toNat ≤ 0x0D)
  | .space, false => Text.isBlank c
  | .word, true => Text.isAsciiWordChar c
  | .word, false => Text.isWordChar c

/-- A member of a set of characters. -/
inductive Member where
  | literal (code : Nat)
  | range (low high : Nat)
  | category (kind : Category) (negated : Bool)
  deriving DecidableEq, Repr

/-- Whether the member has a letter with case among the code points that it lists. -/
def Member.isCased (folding : Folding) : Member → Bool
  | .literal code =>
    match folding with
    | .exact => false
    | .ascii => isAsciiLetter code || 0xFFFF < asciiSmallOf code
    | .full => Pattern.isCased code || 0xFFFF < smallOf code
  | .range low high =>
    match folding with
    | .exact => false
    | .ascii =>
      (low ≤ 0x5A && 0x41 ≤ high) || (low ≤ 0x7A && 0x61 ≤ high) || 0xFFFF < high
    | .full => rangeIsCased low high || 0xFFFF < high
  | .category _ _ => false

/-- Whether the member lists the code point. -/
def Member.lists (ascii : Bool) (n : Nat) : Member → Bool
  | .literal code => code = n
  | .range low high => low ≤ n && n ≤ high
  | .category kind negated => kind.holds ascii (Char.ofNat n) != negated

/-- Whether the member lists the small letter `n` when case is ignored. Beyond the first 65536 code
points a literal stands for itself only, and a range is asked for the letter and its capital. -/
def Member.listsSmall (folding : Folding) (ascii : Bool) (n : Nat) : Member → Bool
  | .literal code =>
    match folding with
    | .full =>
      let small := smallOf code
      if 0xFFFF < small then code = n else small = n || n ∈ siblingsOf small
    | _ => if 0xFFFF < asciiSmallOf code then code = n else asciiSmallOf code = n
  | .range low high =>
    let inside (m : Nat) : Bool := low ≤ m && m ≤ min high 0xFFFF
    let beyond := 0xFFFF < high &&
      ((low ≤ n && n ≤ high) || (low ≤ capitalOf n && capitalOf n ≤ high))
    match folding with
    | .full => (n :: siblingsOf n).any (fun small => (withSmall small).any inside) || beyond
    | _ => (inside n && asciiSmallOf n = n) || (0x61 ≤ n && n ≤ 0x7A && inside (n - 0x20)) || beyond
  | .category kind negated => kind.holds ascii (Char.ofNat n) != negated

/-- A leaf that stands for one character. -/
inductive Single where
  /-- Any character, or any but a line end. -/
  | any (lineEnds : Bool)
  | literal (negated : Bool) (folding : Folding) (code : Nat)
  /-- A set; `cased` says that it is asked for the small form of a character. -/
  | set (negated : Bool) (folding : Folding) (ascii cased : Bool) (members : List Member)
  deriving DecidableEq, Repr

def Single.ofSet (negated : Bool) (folding : Folding) (ascii : Bool) (members : List Member) :
    Single :=
  .set negated folding ascii (members.any (Member.isCased folding)) members

/-- Whether the leaf stands for the character. -/
def Single.accepts (single : Single) (c : Char) : Bool :=
  let n := c.toNat
  match single with
  | .any lineEnds => lineEnds || c ≠ '\n'
  | .literal negated folding code =>
    let same : Bool :=
      match folding with
      | .exact => n = code
      | .ascii => if isAsciiLetter code then asciiSmallOf n = asciiSmallOf code else n = code
      | .full =>
        if Pattern.isCased code then
          smallOf n = smallOf code || smallOf n ∈ siblingsOf (smallOf code)
        else n = code
    same != negated
  | .set negated folding ascii cased members =>
    let listed : Bool :=
      if cased then
        let small := match folding with
          | .full => smallOf n
          | _ => asciiSmallOf n
        members.any (Member.listsSmall folding ascii small)
      else members.any (Member.lists ascii n)
    listed != negated

/-- Places between characters. -/
inductive Anchor where
  /-- The start of the text, as `^` names it. -/
  | start
  /-- The start of the text, as `\A` names it. -/
  | textStart
  | lineStart
  /-- The end of the text, or before a line end that ends it. -/
  | textEnd
  | lineEnd
  | veryEnd
  /-- Between a word character and another character; `inside` asks for the contrary. -/
  | wordEdge (ascii inside : Bool)
  deriving DecidableEq, Repr

/-- How a repetition chooses between more and fewer rounds. -/
inductive Greed where
  | most
  | least
  /-- As many rounds as possible, without going back. -/
  | held
  deriving DecidableEq, Repr

inductive Expr where
  | empty
  | single (leaf : Single)
  | anchor (place : Anchor)
  | seq (first second : Expr)
  | alt (first second : Expr)
  | capture (group : Nat) (body : Expr)
  | repeated (greed : Greed) (least : Nat) (most : Option Nat) (body : Expr)
  | ahead (negated : Bool) (body : Expr)
  | behind (negated : Bool) (body : Expr)
  /-- The text of a group, whose width is known where the reference stands. -/
  | backref (group : Nat) (folding : Folding) (least most : Nat)
  | ifGroup (group : Nat) (yes : Expr) (no : Option Expr)
  | atomic (body : Expr)
  /-- A group with flags of its own, which its leaves have taken over. -/
  | scoped (body : Expr)
  deriving Repr

namespace Expr

/-- Widths are not counted beyond this bound. -/
def maxWidth : Nat := Nat.pow 2 64

/-- The least and the greatest number of characters that the expression takes, before the bound. -/
def rawWidth : Expr → Nat × Nat
  | .empty | .anchor _ | .ahead _ _ | .behind _ _ => (0, 0)
  | .single _ => (1, 1)
  | .seq a b => (a.rawWidth.1 + b.rawWidth.1, a.rawWidth.2 + b.rawWidth.2)
  | .alt a b => (min a.rawWidth.1 b.rawWidth.1, max a.rawWidth.2 b.rawWidth.2)
  | .capture _ a | .atomic a | .scoped a => a.rawWidth
  | .repeated _ least most a =>
    let (low, high) := a.rawWidth
    (min (low * least) maxWidth,
      match most with
      | some most => min (high * most) maxWidth
      | none => if high = 0 then 0 else maxWidth)
  | .backref _ _ least most => (least, most)
  | .ifGroup _ yes none => (0, yes.rawWidth.2)
  | .ifGroup _ yes (some no) =>
    (min yes.rawWidth.1 no.rawWidth.1, max yes.rawWidth.2 no.rawWidth.2)

/-- The least and the greatest number of characters that the expression takes. -/
def width (e : Expr) : Nat × Nat := (min e.rawWidth.1 maxWidth, min e.rawWidth.2 maxWidth)

def leaf? : Expr → Option Single
  | .single leaf => some leaf
  | .scoped body => body.leaf?
  | _ => none

def sequence : List Expr → Expr
  | [] => .empty
  | [e] => e
  | e :: rest => .seq e (sequence rest)

/-- The expressions as alternatives, of which the first one is preferred. -/
def choice (first : Expr) : List Expr → Expr
  | [] => first
  | next :: rest => .alt first (choice next rest)

/-- Whether two expressions are the same place, character or reference. -/
def sameLeaf : Expr → Expr → Bool
  | .single a, .single b => a = b
  | .anchor a, .anchor b => a = b
  | .backref a _ _ _, .backref b _ _ _ => a = b
  | _, _ => false

/-- What forbids the use of a well formed expression. -/
inductive Defect where
  /-- A look behind whose width is not fixed. -/
  | openLookBehind
  /-- A look behind that is too wide. -/
  | wideLookBehind
  /-- A repetition in a pattern that is marked as a template. -/
  | templateRepeat (greed : Greed)
  deriving DecidableEq, Repr

/-- The first defect, from left to right and from the outside in. -/
def defect? (template : Bool) : Expr → Option Defect
  | .empty | .anchor _ | .single _ | .backref _ _ _ _ => none
  | .seq a b | .alt a b => (a.defect? template).or (b.defect? template)
  | .capture _ a | .atomic a | .scoped a | .ahead _ a => a.defect? template
  | .repeated greed _ _ a => if template then some (.templateRepeat greed) else a.defect? template
  | .behind _ a =>
    let (low, high) := a.width
    if 0xFFFFFFFF < low then some .wideLookBehind
    else if low ≠ high then some .openLookBehind
    else a.defect? template
  | .ifGroup _ yes none => yes.defect? template
  | .ifGroup _ yes (some no) => (yes.defect? template).or (no.defect? template)

end Expr

end BraceLink.Pattern
