import BraceLink.Pattern.Expr

/-!
# Search

A pattern is tried at the places of a text from left to right. `Expr.run` tries an expression together with all
that comes after it: where there is a choice, the preferred way is followed to the end, and the next one is
tried only after it has failed.

A failed way leaves the marks of the groups behind as it had them. Inside a repetition the next way has the
marks from before; outside of one it only forgets the marks that were not there before (`Marks.restored`).
-/

namespace BraceLink.Pattern

/-- Where the groups begin and end: group `g` begins at mark `2 * g - 2` and ends at mark `2 * g - 1`. The list
ends with the last mark that has been set. -/
abbrev Marks := List (Option Nat)

namespace Marks

/-- Sets a mark; marks that are passed over count as not set. -/
def mark (marks : Marks) (i offset : Nat) : Marks :=
  if i < marks.length then marks.set i (some offset)
  else marks ++ List.replicate (i - marks.length) none ++ [some offset]

/-- The bounds of a group that has matched. -/
def group? (marks : Marks) (group : Nat) : Option (Nat × Nat) :=
  match marks[2 * group - 2]?, marks[2 * group - 1]? with
  | some (some start), some (some stop) => if start ≤ stop then some (start, stop) else none
  | _, _ => none

/-- The marks for another way, after one that ended with the marks `later`. -/
def restored (saved : Marks) (inside : Bool) (later : Marks) : Marks :=
  if inside then saved else later.take saved.length

end Marks

/-- A place in a text, with the marks that have been set on the way to it. -/
structure Place where
  /-- The characters before the place, the nearest first. -/
  before : Text
  /-- The characters after the place. -/
  rest : Text
  /-- How many characters stand before the place. -/
  offset : Nat
  marks : Marks := []
  deriving DecidableEq, Repr

namespace Place

/-- The place after the next character. -/
def advance (p : Place) : Place :=
  match p.rest with
  | [] => p
  | c :: rest => { p with before := c :: p.before, rest, offset := p.offset + 1 }

/-- The place after the next `n` characters. -/
def skip (p : Place) (n : Nat) : Place := Nat.repeat advance n p

/-- The place `n` characters earlier, if there are so many. -/
def back? (p : Place) (n : Nat) : Option Place :=
  if n ≤ p.offset then
    some
      { p with
        before := p.before.drop n
        rest := (p.before.take n).reverse ++ p.rest
        offset := p.offset - n }
  else none

def setMark (p : Place) (i : Nat) : Place := { p with marks := p.marks.mark i p.offset }

def groupText? (p : Place) (group : Nat) : Option Text :=
  (p.marks.group? group).map fun (start, stop) =>
    ((p.before.reverse ++ p.rest).drop start).take (stop - start)

/-- The places after zero, one and more characters of the leaf, at most `most` of them. -/
def steps (leaf : Single) (p : Place) : Nat → List Place
  | 0 => [p]
  | most + 1 =>
    match p.rest with
    | [] => [p]
    | c :: _ => if leaf.accepts c then p :: steps leaf p.advance most else [p]

end Place

/-- Whether the place is one of the asked kind. -/
def Anchor.holds (anchor : Anchor) (p : Place) : Bool :=
  match anchor with
  | .start | .textStart => p.before.isEmpty
  | .lineStart => p.before.isEmpty || p.before.head? = some '\n'
  | .textEnd => p.rest.isEmpty || p.rest = ['\n']
  | .lineEnd => p.rest.isEmpty || p.rest.head? = some '\n'
  | .veryEnd => p.rest.isEmpty
  | .wordEdge ascii inside =>
    let isWord (c : Option Char) : Bool := c.any (Category.word.holds ascii)
    !(p.before.isEmpty && p.rest.isEmpty) &&
      ((isWord p.before.head? != isWord p.rest.head?) != inside)

/-- Whether the second text begins with the first one, under the folding. -/
def startsWithCopy (folding : Folding) : Text → Text → Bool
  | [], _ => true
  | _ :: _, [] => false
  | a :: more, b :: rest =>
    let same : Bool :=
      match folding with
      | .exact => a = b
      | .ascii => asciiSmallOf a.toNat = asciiSmallOf b.toNat
      | .full => smallOf a.toNat = smallOf b.toNat
    same && startsWithCopy folding more rest

/-- What a try comes to: the place where it ends, or the marks that it leaves behind. -/
abbrev Attempt := Except Marks Place

/-- Takes a character that the leaf stands for. -/
def Single.take (leaf : Single) (p : Place) : Attempt :=
  match p.rest with
  | [] => .error p.marks
  | c :: _ => if leaf.accepts c then .ok p.advance else .error p.marks

def takeCopy (group : Nat) (folding : Folding) (p : Place) : Attempt :=
  match p.groupText? group with
  | none => .error p.marks
  | some text => if startsWithCopy folding text p.rest then .ok (p.skip text.length) else .error p.marks

/-- Stays at the place if what has been looked for is there, or is not there if that is asked for. -/
def look (inside negated : Bool) (found : Attempt) (p : Place) : Attempt :=
  match found, negated with
  | .ok q, false => .ok { p with marks := q.marks }
  | .ok q, true => .error q.marks
  | .error later, false => .error later
  | .error later, true => .ok { p with marks := p.marks.restored inside later }

/-- Goes on from the first of the places from which that succeeds; the places come with the marks `marks`. -/
def firstOf (inside : Bool) (next : Place → Attempt) (marks : Marks) : List Place → Attempt
  | [] => .error marks
  | p :: others =>
    match next { p with marks } with
    | .ok q => .ok q
    | .error later => firstOf inside next (marks.restored inside later) others

/-- The rounds of a leaf, which need no marks. -/
def leafRounds (inside : Bool) (leaf : Single) (greed : Greed) (least : Nat) (most : Option Nat)
    (next : Place → Attempt) (p : Place) : Attempt :=
  let ends := (p.steps leaf (most.getD p.rest.length)).drop least
  match greed with
  | .most => firstOf inside next p.marks ends.reverse
  | .least => firstOf inside next p.marks ends
  | .held => (match ends.getLast? with | some q => .ok q | none => .error p.marks) >>= next

/-- A repetition between two numbers of rounds. -/
structure Bounds where
  least : Nat
  most : Option Nat

/-- Whether a round may follow `count` rounds. Beyond the least number a round must not begin where the one
before it began. -/
def Bounds.allow (bounds : Bounds) (count : Nat) (last : Option Nat) (p : Place) : Bool :=
  bounds.most.all (fun most => count < most) && last ≠ some p.offset

/-- Rounds as many as possible first. `count` rounds have been made; beyond the least number, `last` is where the
latest one began. -/
def roundsMost (bounds : Bounds) (round : (Place → Attempt) → Place → Attempt) (next : Place → Attempt) :
    (fuel count : Nat) → (last : Option Nat) → Place → Attempt
  | 0, _, _, p => .error p.marks
  | fuel + 1, count, last, p =>
    if count < bounds.least then round (roundsMost bounds round next fuel (count + 1) last) p
    else if bounds.allow count last p then
      match round (roundsMost bounds round next fuel (count + 1) (some p.offset)) p with
      | .ok q => .ok q
      | .error _ => next p
    else next p

/-- Rounds as few as possible first. -/
def roundsLeast (inside : Bool) (bounds : Bounds) (round : (Place → Attempt) → Place → Attempt)
    (next : Place → Attempt) : (fuel count : Nat) → (last : Option Nat) → Place → Attempt
  | 0, _, _, p => .error p.marks
  | fuel + 1, count, last, p =>
    if count < bounds.least then
      round (roundsLeast inside bounds round next fuel (count + 1) last) p
    else
      match next p with
      | .ok q => .ok q
      | .error later =>
        let marks := p.marks.restored inside later
        if bounds.allow count last p then
          round (roundsLeast inside bounds round next fuel (count + 1) (some p.offset)) { p with marks }
        else .error marks

/-- The place after as many rounds as possible, each of which is settled before the next one. -/
def roundsHeld (bounds : Bounds) (round : Place → Attempt) :
    (fuel count : Nat) → (last : Option Nat) → Place → Attempt
  | 0, _, _, p => .error p.marks
  | fuel + 1, count, last, p =>
    if count < bounds.least then
      match round p with
      | .ok q => roundsHeld bounds round fuel (count + 1) last q
      | .error later => .error later
    else if bounds.allow count last p then
      match round p with
      | .ok q => roundsHeld bounds round fuel (count + 1) (some p.offset) q
      | .error _ => .ok p
    else .ok p

/-- The rounds of a repetition. Beyond the least number each round begins further on in the text, so `fuel` of
them are never exceeded. -/
def rounds (inside : Bool) (greed : Greed) (bounds : Bounds)
    (round : (Place → Attempt) → Place → Attempt) (next : Place → Attempt) (p : Place) : Attempt :=
  let fuel := bounds.least + p.rest.length + 2
  match greed with
  | .most => roundsMost bounds round next fuel 0 none p
  | .least => roundsLeast inside bounds round next fuel 0 none p
  | .held => roundsHeld bounds (round .ok) fuel 0 none p >>= next

/-- Tries the expression at a place, and `next` where it ends; `inside` holds inside a repetition of more than a
leaf whose rounds can be taken back. -/
def Expr.run (inside : Bool) : Expr → (Place → Attempt) → Place → Attempt
  | .empty, next, p => next p
  | .single leaf, next, p => leaf.take p >>= next
  | .anchor place, next, p => if place.holds p then next p else .error p.marks
  | .seq a b, next, p => a.run inside (b.run inside next) p
  | .alt a b, next, p =>
    match a.run inside next p with
    | .ok q => .ok q
    | .error later =>
      let marks := p.marks.restored inside later
      match b.run inside next { p with marks } with
      | .ok q => .ok q
      | .error later => .error (marks.restored inside later)
  | .capture group body, next, p =>
    body.run inside (fun q => next (q.setMark (2 * group - 1))) (p.setMark (2 * group - 2))
  | .repeated greed least most body, next, p =>
    match body.leaf? with
    | some leaf => leafRounds inside leaf greed least most next p
    | none => rounds inside greed ⟨least, most⟩ (body.run (inside || greed ≠ .held)) next p
  | .ahead negated body, next, p => look inside negated (body.run inside .ok p) p >>= next
  | .behind negated body, next, p =>
    look inside negated ((p.back? body.width.1).elim (.error p.marks) (body.run inside .ok)) p >>= next
  | .backref group folding _ _, next, p => takeCopy group folding p >>= next
  | .ifGroup group yes no, next, p =>
    if (p.marks.group? group).isSome then yes.run inside next p
    else
      match no with
      | some no => no.run inside next p
      | none => next p
  | .atomic body, next, p => body.run inside .ok p >>= next
  | .scoped body, next, p => body.run inside next p

def Expr.matchesAt (e : Expr) (p : Place) : Bool := (e.run false .ok p).isOk

/-- Whether the expression matches somewhere from the place on. -/
def Expr.foundFrom (e : Expr) (before rest : Text) (offset : Nat) : Bool :=
  e.matchesAt { before, rest, offset } ||
    match rest with
    | [] => false
    | c :: rest => e.foundFrom (c :: before) rest (offset + 1)

/-- Whether the expression matches somewhere in the text. -/
def Expr.found (e : Expr) (text : Text) : Bool := e.foundFrom [] text 0

end BraceLink.Pattern
