import BraceLink.Commonmark.Inline.Basic
import BraceLink.Text.Blank
import BraceLink.Text.Punctuation

/-!
# Emphasis

Which marks of a run may open and close an emphasis depends on the characters on both sides of the run.
`pair` finds the partner of each closing mark, `resolve` turns the marks with partners into the
beginnings and ends of elements.
-/

namespace BraceLink.Commonmark

/-- Whether the character separates words. -/
def isSpace (c : Char) : Bool :=
  let n := c.toNat
  (0x09 ≤ n && n ≤ 0x0D) || n = 0x20 || n = 0xA0 || n = 0x1680 || (0x2000 ≤ n && n ≤ 0x200A) ||
    n = 0x202F || n = 0x205F || n = 0x3000

/-- A run of marks: its length, and whether it may open and close an emphasis. -/
structure Run where
  length : Nat
  opens : Bool
  closes : Bool

/-- The run of marks at the next character. -/
def State.run (s : State) (symbol : Char) (splitsWords : Bool) : Run :=
  let length := ((s.slice s.pos s.stop).takeWhile (· = symbol)).length
  let before := if s.pos = 0 then ' ' else (s.char? (s.pos - 1)).getD ' '
  let after :=
    if s.pos + length < s.stop then (s.char? (s.pos + length)).getD ' ' else ' '
  let marksBefore := Text.isPunctuation before
  let marksAfter := Text.isPunctuation after
  let left := !(isSpace after || (marksAfter && !(isSpace before || marksBefore)))
  let right := !(isSpace before || (marksBefore && !(isSpace after || marksAfter)))
  { length
    opens := left && (splitsWords || !right || marksBefore)
    closes := right && (splitsWords || !left || marksAfter) }

/-- Adds the marks of a run, each as a piece of its own. -/
def State.pushMarks (s : State) (symbol : Char) (run : Run) : State :=
  Nat.repeat
    (fun s =>
      let s := s.flush
      let number := s.pieces.length
      { s.push (.mark symbol number) with
        delimiters := s.delimiters ++
          [{ symbol, length := run.length, number, opens := run.opens, closes := run.closes }] })
    run.length s

/-- What is known while partners are looked for. -/
structure Pairing where
  delimiters : Array Delimiter
  /-- How many marks before a mark need not be looked at. -/
  jumps : Array Nat := #[]
  /-- Where looking for an opening mark ended without success, by the kind of the closing mark. -/
  bottoms : List ((Char × Bool × Nat) × Nat) := []
  /-- The first mark of the run of the current mark. -/
  header : Nat := 0
  /-- The number of the mark before the current one, unless that one has a partner. -/
  last : Option Nat := none

/-- Whether two marks may be partners: if one of them could do both, the lengths of the runs must not
add up to a multiple of three, unless both are multiples. -/
def mayPair (opener closer : Delimiter) : Bool :=
  !((opener.closes || closer.opens) && (opener.length + closer.length) % 3 = 0 &&
    (opener.length % 3 ≠ 0 || closer.length % 3 ≠ 0))

/-- The nearest mark before the first `count` ones, and not before the first `bottom` ones, that may
open what the closer closes. -/
def Pairing.opener? (p : Pairing) (closer : Delimiter) (bottom count : Nat) : Option Nat :=
  match count with
  | 0 => none
  | index + 1 =>
    if index + 1 ≤ bottom then none
    else
      match p.delimiters[index]? with
      | none => none
      | some opener =>
        if opener.symbol = closer.symbol && opener.opens && opener.partner.isNone &&
            mayPair opener closer then
          some index
        else p.opener? closer bottom (index - p.jumps.getD index 0)
termination_by count
decreasing_by omega

/-- Looks for the partner of the mark at the index. -/
def Pairing.step (p : Pairing) (index : Nat) : Pairing :=
  match p.delimiters[index]? with
  | none => p
  | some closer =>
    let jumps := p.jumps.push 0
    let sameRun :=
      (p.delimiters[p.header]?.map Delimiter.symbol) = some closer.symbol &&
        (p.last.map (· + 1)) = some closer.number
    let header := if sameRun then p.header else index
    let p := { p with jumps, header, last := some closer.number }
    if !closer.closes then p
    else
      let kind := (closer.symbol, closer.opens, closer.length % 3)
      let count := header - jumps.getD header 0
      match p.opener? closer ((p.bottoms.lookup kind).getD 0) count with
      | none => { p with bottoms := (kind, count) :: p.bottoms.filter fun entry => entry.1 ≠ kind }
      | some found =>
        let jump :=
          match found with
          | 0 => 0
          | before + 1 =>
            if (p.delimiters[before]?.map Delimiter.opens) = some true then 0
            else jumps.getD before 0 + 1
        { p with
          jumps := (jumps.set! index (index - found + jump)).set! found jump
          delimiters :=
            (p.delimiters.modify index fun d => { d with opens := false }).modify found
              fun d => { d with partner := some index, closes := false }
          last := none }

def pair (delimiters : List Delimiter) : Array Delimiter :=
  let p : Pairing := { delimiters := delimiters.toArray }
  ((List.range delimiters.length).foldl Pairing.step p).delimiters

/-- Whether two neighbouring marks and the partners of both form one strong emphasis. -/
def isStrong (before opener : Delimiter) (delimiters : Array Delimiter) : Bool :=
  match opener.partner with
  | none => false
  | some close =>
    before.partner = some (close + 1) && before.symbol = opener.symbol &&
      before.number + 1 = opener.number &&
      match delimiters[close]?, delimiters[close + 1]? with
      | some a, some b => b.number = a.number + 1
      | _, _ => false

/-- What the marks with partners among the first `count` ones become, by their numbers. -/
def meanings (delimiters : Array Delimiter) (count : Nat) : List (Nat × Node) :=
  match count with
  | 0 => []
  | index + 1 =>
    match delimiters[index]? with
    | none => meanings delimiters index
    | some opener =>
      match opener.partner.bind fun close => (delimiters[close]?).map fun d => (close, d) with
      | none => meanings delimiters index
      | some (close, closer) =>
        let single :=
          (opener.number, Node.emphasisOpen false) :: (closer.number, .emphasisClose false) ::
            meanings delimiters index
        match index with
        | 0 => single
        | previous + 1 =>
          match delimiters[previous]?, delimiters[close + 1]? with
          | some before, some after =>
            if isStrong before opener delimiters then
              (opener.number, .emphasisOpen true) :: (closer.number, .emphasisClose true) ::
                (before.number, .text []) :: (after.number, .text []) ::
                meanings delimiters previous
            else single
          | _, _ => single

/-- The piece that a mark has become. -/
def resolveNode (table : List (Nat × Node)) (node : Node) : Node :=
  match node with
  | .mark symbol number => (table.lookup number).getD (.text [symbol])
  | other => other

/-- The pieces with every mark resolved. -/
def State.resolved (s : State) : List Node :=
  let table := (s.closed ++ s.delimiters :: s.outer).flatMap fun delimiters =>
    meanings (pair delimiters) delimiters.length
  s.pieces.map fun piece => resolveNode table piece.node

end BraceLink.Commonmark
