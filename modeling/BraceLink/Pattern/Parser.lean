import BraceLink.Number.Numeral
import BraceLink.Pattern.Reader
import BraceLink.Text.CharacterName
import BraceLink.Text.Identifier

/-!
# Parsing a pattern

* `Modes`: what the flags say at a place of the pattern.
* `readEscape`, `readSetEscape`: what follows a backslash.
* `readSet`, `readBounds`, `readFlags`: sets, numbers of rounds, and flags in parentheses.
* `readItems`, `readBranches`: sequences and alternatives. Each step consumes a mark or descends into
  a sequence, so three steps for each character suffice.
-/

namespace BraceLink.Pattern

/-- How the leaves at a place of the pattern behave. -/
structure Modes where
  ignoreCase : Bool := false
  /-- Letters, digits and blanks are those of ASCII. -/
  ascii : Bool := false
  multiline : Bool := false
  dotAll : Bool := false
  /-- Blanks and comments in the pattern are skipped. -/
  verbose : Bool := false
  deriving DecidableEq, Repr

namespace Modes

/-- The modes after flags have been turned on and off. -/
def change (on off : List Char) (modes : Modes) : Modes :=
  let pick (letter : Char) (current : Bool) : Bool :=
    (current || letter ∈ on) && letter ∉ off
  { ignoreCase := pick 'i' modes.ignoreCase
    ascii := if 'a' ∈ on then true else if 'u' ∈ on then false else modes.ascii
    multiline := pick 'm' modes.multiline
    dotAll := pick 's' modes.dotAll
    verbose := pick 'x' modes.verbose }

/-- How case is treated. -/
def folding (modes : Modes) : Folding :=
  if modes.ignoreCase then if modes.ascii then .ascii else .full else .exact

/-- The leaf for a code point. -/
def literal (modes : Modes) (code : Nat) (negated : Bool := false) : Expr :=
  .single (.literal negated modes.folding code)

/-- The leaf for a set; a set of one code point is that code point. -/
def set (modes : Modes) (negated : Bool) (members : List Member) : Expr :=
  match members.eraseDups with
  | [.literal code] => modes.literal code negated
  | members => .single (Single.ofSet negated modes.folding modes.ascii members)

end Modes

/-- The code point of an escaped letter that stands for a control character or for itself. -/
def controlEscape? : Char → Option Nat
  | 'a' => some 0x07
  | 'b' => some 0x08
  | 'f' => some 0x0C
  | 'n' => some 0x0A
  | 'r' => some 0x0D
  | 't' => some 0x09
  | 'v' => some 0x0B
  | '\\' => some 0x5C
  | _ => none

/-- The class of characters of an escaped letter. -/
def categoryEscape? : Char → Option Member
  | 'd' => some (.category .digit false)
  | 'D' => some (.category .digit true)
  | 's' => some (.category .space false)
  | 'S' => some (.category .space true)
  | 'w' => some (.category .word false)
  | 'W' => some (.category .word true)
  | _ => none

def anchorEscape? (ascii : Bool) : Char → Option Anchor
  | 'A' => some .textStart
  | 'b' => some (.wordEdge ascii false)
  | 'B' => some (.wordEdge ascii true)
  | 'Z' => some .veryEnd
  | _ => none

def isOctalDigit (c : Char) : Bool := '0' ≤ c && c ≤ '7'

def octalNumber (digits : Text) : Nat :=
  digits.foldl (fun n c => n * 8 + (c.toNat - '0'.toNat)) 0

/-- Fails at the beginning of an escape that has been consumed. -/
def failEscape {α : Type} (cause : Text → Cause) (written : Text) : Read α :=
  Read.fail (cause written) written.length

/-- The code point of an escape by number or by name, if the letter begins one. -/
def readCodeEscape? (letter : Char) : Read (Option Nat) := do
  let fixed (count : Nat) : Read Nat := do
    let digits ← Read.takeWhile Text.isHexDigit count
    let written := '\\' :: letter :: digits
    if digits.length < count then failEscape .incompleteEscape written
    let code := Text.hexNumber digits
    if 0x7FFFFFFF < code then throw .tooLarge
    if 0x10FFFF < code then failEscape .badEscape written
    return code
  match letter with
  | 'x' => return some (← fixed 2)
  | 'u' => return some (← fixed 4)
  | 'U' => return some (← fixed 8)
  | 'N' =>
    if !(← Read.take Text.openBrace) then Read.fail (.missing [Text.openBrace])
    let name ← Read.name Text.closeBrace "character name"
    match Text.namedCharacter? name with
    | some c => return some c.toNat
    | none => Read.fail (.unknownCharacterName name) (name.length + 4)
  | _ => return none

def readSetEscape (letter : Char) : Read Member := do
  match (controlEscape? letter).map Member.literal |>.or (categoryEscape? letter) with
  | some member => return member
  | none =>
    match ← readCodeEscape? letter with
    | some code => return .literal code
    | none =>
      if isOctalDigit letter then
        let digits := letter :: (← Read.takeWhile isOctalDigit 2)
        if 0o377 < octalNumber digits then failEscape .octalTooLarge ('\\' :: digits)
        return .literal (octalNumber digits)
      else if letter.isAlphanum then failEscape .badEscape ['\\', letter]
      else return .literal letter.toNat

/-- A reference to a group by number, or an octal escape: a zero leads one, and so do three octal
digits. -/
def readNumberEscape (modes : Modes) (digit : Char) : Read Expr := do
  if digit = '0' then
    return modes.literal (octalNumber (← Read.takeWhile isOctalDigit 2))
  let second ← Read.takeWhile Char.isDigit 1
  let third ←
    if isOctalDigit digit && second.any isOctalDigit then Read.takeWhile isOctalDigit 1
    else pure []
  let digits := digit :: second ++ third
  if !third.isEmpty then
    if 0o377 < octalNumber digits then failEscape .octalTooLarge ('\\' :: digits)
    return modes.literal (octalNumber digits)
  let group := Text.decimalNumber digits
  if (← Read.groupCount) ≤ group then Read.fail (.noSuchGroup group) digits.length
  match ← Read.width? group with
  | none => Read.fail .openGroup (digits.length + 1)
  | some (least, most) =>
    Read.checkLookBehind group
    return .backref group modes.folding least most

/-- An escape outside a set. -/
def readEscape (modes : Modes) (letter : Char) : Read Expr := do
  match anchorEscape? modes.ascii letter with
  | some anchor => return .anchor anchor
  | none =>
    match categoryEscape? letter, controlEscape? letter with
    | some member, _ => return modes.set false [member]
    | none, some code => return modes.literal code
    | none, none =>
      match ← readCodeEscape? letter with
      | some code => return modes.literal code
      | none =>
        if letter.isDigit then readNumberEscape modes letter
        else if letter.isAlpha then failEscape .badEscape ['\\', letter]
        else return modes.literal letter.toNat

/-- A member of a set that begins with the given mark. -/
def readMember : Mark → Read Member
  | .plain c => return .literal c.toNat
  | .escaped letter => readSetEscape letter

/-- The members of a set up to the closing bracket; the opening one stands at `start`. -/
def readMembers (start : Nat) (members : List Member) : Nat → Read (List Member)
  | 0 => return members
  | steps + 1 => do
    let unterminated {α : Type} : Read α := Read.failAt start .unterminatedSet
    match ← Read.next with
    | none => unterminated
    | some low =>
      if low = .plain ']' && !members.isEmpty then return members
      let first ← readMember low
      if !(← Read.take '-') then readMembers start (members ++ [first]) steps
      else
        match ← Read.next with
        | none => unterminated
        | some high =>
          if high = .plain ']' then return members ++ [first, .literal '-'.toNat]
          let second ← readMember high
          let bad : Cause := .badRange low.text high.text
          let back := low.text.length + 1 + high.text.length
          match first, second with
          | .literal a, .literal b =>
            if b < a then Read.fail bad back
            else readMembers start (members ++ [.range a b]) steps
          | _, _ => Read.fail bad back

/-- A set after its opening bracket. -/
def readSet (modes : Modes) (start : Nat) : Read Expr := do
  let negated ← Read.take '^'
  let steps := (← get).rest.length + 1
  return modes.set negated (← readMembers start [] steps)

/-- Numbers of rounds from this one on are too large. -/
def maxRepeat : Nat := Nat.pow 2 32 - 1

/-- The value of a number of rounds, if one is given. -/
def repeatCount (digits : Text) : Read (Option Nat) := do
  if digits.isEmpty then return none
  if Number.maxDigits < digits.length then throw .unusable
  let count := Text.decimalNumber digits
  if maxRepeat ≤ count then throw .tooLarge
  return some count

/-- The bounds of a repetition after the opening brace, or nothing if the brace stands for itself;
then nothing has been consumed. -/
def readBounds? : Read (Option (Nat × Option Nat)) := do
  let start ← get
  if (← Read.peek) = some (.plain Text.closeBrace) then return none
  let digits := start.rest.length
  let low ← Read.takeWhile Char.isDigit digits
  let high ← if ← Read.take ',' then Read.takeWhile Char.isDigit digits else pure low
  if !(← Read.take Text.closeBrace) then
    set start
    return none
  let least ← repeatCount low
  let most ← repeatCount high
  match most with
  | none => return some (least.getD 0, none)
  | some most =>
    if most < least.getD 0 then Read.failAt start.offset .repeatBoundsSwapped
    else return some (least.getD 0, some most)

def flagLetters : List Char := ['i', 'L', 'm', 's', 'x', 'a', 't', 'u']

/-- The letters of the flags that say what a letter is. -/
def typeFlags : List Char := ['a', 'L', 'u']

/-- Fails at a mark that has been consumed and is no flag. -/
def failFlag {α : Type} (what : Text) (mark : Mark) : Read α :=
  let cause : Cause :=
    match mark with
    | .plain c => if Text.isLetter c then .unknownFlag else .missing what
    | .escaped _ => .missing what
  Read.fail cause mark.text.length

/-- The flags that are turned on, from the given letter on, and the mark after them. -/
def readFlagsOn (letter : Char) (on : List Char) : Nat → Read (List Char × Char)
  | 0 => return (on, ')')
  | steps + 1 => do
    if letter = 'L' then Read.fail .localeFlag
    let on := letter :: on
    if letter ∈ typeFlags && on.any (fun other => other ∈ typeFlags && other ≠ letter) then
      Read.fail .incompatibleFlags
    let missing : Text := "-, : or )"
    let mark ← Read.nextOr (.missing missing)
    match mark with
    | .plain c =>
      if c = ')' || c = '-' || c = ':' then return (on, c)
      else if c ∈ flagLetters then readFlagsOn c on steps
      else failFlag missing mark
    | .escaped _ => failFlag missing mark

/-- The flags that are turned off, up to the colon. -/
def readFlagsOff (off : List Char) (missing : Text) : Nat → Read (List Char)
  | 0 => return off
  | steps + 1 => do
    let mark ← Read.nextOr (.missing missing)
    match mark with
    | .plain c =>
      if c = ':' && !off.isEmpty then return off
      else if c ∈ flagLetters then
        if c ∈ typeFlags then Read.fail .typeFlagOff
        else readFlagsOff (c :: off) ":" steps
      else failFlag missing mark
    | .escaped _ => failFlag missing mark

/-- Flags in parentheses, from the given mark on: the flags to turn on and off in the group, or
nothing if they hold for the whole pattern. -/
def readFlags (first : Char) : Read (Option (List Char × List Char)) := do
  let steps := (← get).rest.length + 1
  let (on, mark) ← if first = '-' then pure ([], '-') else readFlagsOn first [] steps
  if mark = ')' then
    modify fun reading => { reading with flags := on ++ reading.flags }
    return none
  if 't' ∈ on then Read.fail (.globalFlag true) 1
  let off ← if mark = '-' then readFlagsOff [] "flag" steps else pure []
  if 't' ∈ off then Read.fail (.globalFlag false) 1
  if on.any (· ∈ off) then Read.fail .flagOnAndOff 1
  return some (on, off)

/-- Groups with this number and above cannot be asked for. -/
def maxGroups : Nat := Nat.pow 2 30 - 1

/-- The group that a condition asks for, by name or by number. -/
def readCondition : Read Nat := do
  let name ← Read.name ')' "group name"
  let back := name.length + 1
  let group ←
    if Text.isIdentifier name then
      match (← get).names.lookup name with
      | some group => pure group
      | none => Read.fail (.unknownGroupName name) back
    else
      let number :=
        if Number.maxDigits < (name.filter Text.isDigit).length then none else Number.integer? name
      match number with
      | none | some (.negSucc _) => Read.fail (.badGroupName name) back
      | some (.ofNat group) =>
        if group = 0 then Read.fail .groupNumberZero back
        if maxGroups ≤ group then Read.fail (.noSuchGroup group) back
        let offset := (← Read.tell) - back
        modify fun reading =>
          if (reading.asked.lookup group).isSome then reading
          else { reading with asked := reading.asked ++ [(group, offset)] }
        pure group
  Read.checkLookBehind group
  return group

/-- The name of a group before its closing mark. -/
def readGroupName (terminator : Char) : Read Text := do
  let name ← Read.name terminator "group name"
  if Text.isIdentifier name then return name
  else Read.fail (.badGroupName name) (name.length + 1)

def readNamedReference (modes : Modes) : Read Expr := do
  let name ← readGroupName ')'
  let back := name.length + 1
  match (← get).names.lookup name with
  | none => Read.fail (.unknownGroupName name) back
  | some group =>
    match ← Read.width? group with
    | none => Read.fail .openGroup back
    | some (least, most) =>
      Read.checkLookBehind group
      return .backref group modes.folding least most

/-- What begins after an opening parenthesis. -/
inductive Opening where
  | comment
  | group (name : Option Text)
  | bare
  | atomic
  | reference (expr : Expr)
  | look (behind negated : Bool)
  | condition (group : Nat)
  | scopedFlags (on off : List Char)
  | globalFlags

/-- Reads what follows an opening parenthesis, up to the content of the group. -/
def readOpening (modes : Modes) : Read Opening := do
  if !(← Read.take '?') then return .group none
  let mark ← Read.nextOr .unexpectedEnd
  let unknown {α : Type} (lead : Text) (mark : Mark) : Read α :=
    Read.fail (.unknownExtension ('?' :: lead ++ mark.text)) (mark.text.length + 1 + lead.length)
  match mark with
  | .plain 'P' =>
    if ← Read.take '<' then return .group (some (← readGroupName '>'))
    else if ← Read.take '=' then return .reference (← readNamedReference modes)
    else unknown ['P'] (← Read.nextOr .unexpectedEnd)
  | .plain ':' => return .bare
  | .plain '#' => return .comment
  | .plain '=' => return .look false false
  | .plain '!' => return .look false true
  | .plain '<' =>
    let mark ← Read.nextOr .unexpectedEnd
    match mark with
    | .plain '=' => return .look true false
    | .plain '!' => return .look true true
    | _ => unknown ['<'] mark
  | .plain '(' => return .condition (← readCondition)
  | .plain '>' => return .atomic
  | .plain c =>
    if c ∈ flagLetters || c = '-' then
      match ← readFlags c with
      | none => return .globalFlags
      | some (on, off) => return .scopedFlags on off
    else unknown [] mark
  | .escaped _ => unknown [] mark

/-- A part of a sequence, with what forbids to repeat it. A group without flags of its own is what it
holds. -/
structure Item where
  exprs : List Expr
  fault : Option Cause := none

/-- The item of an expression; an anchor cannot be repeated. -/
def Item.of (expr : Expr) : Item :=
  match expr with
  | .anchor _ => ⟨[expr], some .nothingToRepeat⟩
  | _ => ⟨[expr], none⟩

/-- The expressions of items, of which the last one is given first. -/
def inOrder (items : List Item) : List Expr := items.reverse.flatMap Item.exprs

/-- How the rounds that a quantifier asks for are chosen, by the mark after it. -/
def readGreed : Read Greed := do
  if ← Read.take '?' then return .least
  if ← Read.take '+' then return .held
  return .most

/-- Puts a repetition in the place of the last item; the quantifier stands at `start`. -/
def repeatLast (start least : Nat) (most : Option Nat) : List Item → Read (List Item)
  | [] => Read.failAt start .nothingToRepeat
  | item :: before => do
    match item.fault with
    | some cause => Read.failAt start cause
    | none =>
      let greed ← readGreed
      return ⟨[.repeated greed least most (Expr.sequence item.exprs)], some .multipleRepeat⟩ :: before

/-- The mark of a quantifier without bounds of its own. -/
def quantifier? : Char → Option (Nat × Option Nat)
  | '?' => some (0, some 1)
  | '*' => some (0, none)
  | '+' => some (1, none)
  | _ => none

/-- The members of the set that the expressions are, if they are a single character or set. -/
def members? : List Expr → Option (List Member)
  | [.single (.literal false _ code)] => some [.literal code]
  | [.single (.set false _ _ _ members)] => some members
  | _ => none

/-- One of several sequences. Sequences of one character each are a set. -/
def Modes.oneOf (modes : Modes) (first : List Expr) (others : List (List Expr)) : Expr :=
  match (first :: others).mapM members? with
  | some sets => modes.set false sets.flatten
  | none => Expr.choice (Expr.sequence first) (others.map Expr.sequence)

/-- One of several sequences, after what all of them begin with. -/
def Modes.factored (modes : Modes) : List Expr → List (List Expr) → List Expr
  | [], others => [modes.oneOf [] others]
  | lead :: first, others =>
    if others.all fun other => other.head?.any lead.sameLeaf then
      lead :: modes.factored first (others.map List.tail)
    else [modes.oneOf (lead :: first) others]

def Modes.alternatives (modes : Modes) (first : List Expr) (others : List (List Expr)) : List Expr :=
  if others.isEmpty then first else modes.factored first others

/-- Consumes the closing parenthesis of a group that begins at `start`. -/
def closeParenthesis (start : Nat) : Read Unit := do
  if !(← Read.take ')') then Read.failAt start (.missing "), unterminated subpattern")

def lookAround (behind negated : Bool) (body : Expr) : Expr :=
  if behind then .behind negated body else .ahead negated body

mutual

/-- The alternatives up to a closing parenthesis or the end; `outermost` holds outside of all
parentheses, where flags for the whole pattern may stand. -/
def readBranches (modes : Modes) (outermost : Bool) : Nat → Read (List Expr)
  | 0 => return []
  | steps + 1 => do
    let (first, modes) ← readItems modes outermost [] steps
    return modes.alternatives first (← readMoreBranches modes steps)

/-- The alternatives after the first one, each after a bar. -/
def readMoreBranches (modes : Modes) : Nat → Read (List (List Expr))
  | 0 => return []
  | steps + 1 => do
    if ← Read.take '|' then
      let (next, _) ← readItems modes false [] steps
      return next :: (← readMoreBranches modes steps)
    else return []

/-- A sequence up to a bar, a closing parenthesis or the end, after the items that have been read, the
last one first; and the modes that hold at its end. -/
def readItems (modes : Modes) (first : Bool) (items : List Item) : Nat → Read (List Expr × Modes)
  | 0 => return (inOrder items, modes)
  | steps + 1 => do
    let start ← Read.tell
    let again (item : Item) : Read (List Expr × Modes) := readItems modes first (item :: items) steps
    match ← Read.peek with
    | none => return (inOrder items, modes)
    | some (.escaped letter) =>
      let _ ← Read.next
      again (Item.of (← readEscape modes letter))
    | some (.plain c) =>
      if c = '|' || c = ')' then return (inOrder items, modes)
      let _ ← Read.next
      if modes.verbose && (c = ' ' || (0x09 ≤ c.toNat && c.toNat ≤ 0x0D)) then
        readItems modes first items steps
      else if modes.verbose && c = '#' then
        Read.skipLine ((← get).rest.length + 1)
        readItems modes first items steps
      else if c = '[' then again (Item.of (← readSet modes start))
      else if c = '.' then again ⟨[.single (.any modes.dotAll)], none⟩
      else if c = '^' then
        again (Item.of (.anchor (if modes.multiline then .lineStart else .start)))
      else if c = '$' then
        again (Item.of (.anchor (if modes.multiline then .lineEnd else .textEnd)))
      else if c = Text.openBrace then
        match ← readBounds? with
        | none => again ⟨[modes.literal c.toNat], none⟩
        | some (least, most) =>
          readItems modes first (← repeatLast start least most items) steps
      else if c = '(' then
        match ← readOpening modes with
        | .comment =>
          Read.skipComment start ((← get).rest.length + 1)
          readItems modes first items steps
        | .globalFlags =>
          if !first || !items.isEmpty then Read.failAt start .misplacedFlags
          readItems (modes.change (← get).flags []) first items steps
        | .reference expr => again ⟨[expr], none⟩
        | .look behind negated =>
          let outer := (← get).lookBehind
          if behind && outer.isNone then
            let groups ← Read.groupCount
            modify fun reading => { reading with lookBehind := some groups }
          let body ← readBranches modes false steps
          if behind then modify fun reading => { reading with lookBehind := outer }
          closeParenthesis start
          again ⟨[lookAround behind negated (Expr.sequence body)], none⟩
        | .condition group =>
          let (yes, _) ← readItems modes false [] steps
          let no ←
            if ← Read.take '|' then
              let (no, _) ← readItems modes false [] steps
              if (← Read.peek) = some (.plain '|') then Read.fail .thirdBranch
              pure (some no)
            else pure none
          closeParenthesis start
          again ⟨[.ifGroup group (Expr.sequence yes) (no.map Expr.sequence)], none⟩
        | .group name =>
          let group ← Read.openGroup name
          let body := Expr.sequence (← readBranches modes false steps)
          closeParenthesis start
          Read.closeGroup group body
          again ⟨[.capture group body], none⟩
        | .bare =>
          let body ← readBranches modes false steps
          closeParenthesis start
          again ⟨body, none⟩
        | .atomic =>
          let body ← readBranches modes false steps
          closeParenthesis start
          again ⟨[.atomic (Expr.sequence body)], none⟩
        | .scopedFlags on off =>
          let body ← readBranches (modes.change on off) false steps
          closeParenthesis start
          again ⟨[.scoped (Expr.sequence body)], none⟩
      else
        match quantifier? c with
        | some (least, most) =>
          readItems modes first (← repeatLast start least most items) steps
        | none => again ⟨[modes.literal c.toNat], none⟩

end

/-- The whole pattern, and the flags that hold for it. -/
def readPattern (ignoreCase : Bool) : Read (Expr × List Char) := do
  goToStart
  let steps := 3 * (← get).rest.length + 3
  let exprs ← readBranches { ignoreCase } true steps
  let reading ← get
  if 'a' ∈ reading.flags && 'u' ∈ reading.flags then throw .unusable
  if !reading.rest.isEmpty then Read.fail .unbalanced
  let groups ← Read.groupCount
  match reading.asked.find? fun entry => groups ≤ entry.1 with
  | some (group, offset) => Read.failAt offset (.noSuchGroup group)
  | none => return (Expr.sequence exprs, if ignoreCase then 'i' :: reading.flags else reading.flags)
where
  /-- Looks at the first mark. -/
  goToStart : Read Unit := do
    Read.goTo (← get).rest 0

end BraceLink.Pattern
