import BraceLink.Pattern.Error

/-!
# Reading a pattern

A pattern is read mark by mark; a mark is a character, or a backslash with the character after it. The
reader always knows the next mark, so a lone backslash at the end is noticed as soon as it comes next.
-/

namespace BraceLink.Pattern

/-- The smallest part of the text of a pattern. -/
inductive Mark where
  | plain (c : Char)
  | escaped (c : Char)
  deriving DecidableEq, Repr

def Mark.text : Mark → Text
  | .plain c => [c]
  | .escaped c => ['\\', c]

/-- What is known while a pattern is read. -/
structure Reading where
  /-- The text from the next mark on. -/
  rest : Text
  /-- The offset of the next mark. -/
  offset : Nat
  /-- The widths of the groups in order; a group that is still open has none. -/
  widths : List (Option (Nat × Nat)) := []
  /-- The numbers of the named groups. -/
  names : List (Text × Nat) := []
  /-- How many groups there were when the outermost look behind began. -/
  lookBehind : Option Nat := none
  /-- The groups that conditions ask for, with the offset of the first one that does. -/
  asked : List (Nat × Nat) := []
  /-- The letters of the flags that hold everywhere. -/
  flags : List Char := []

abbrev Read := StateT Reading (Except Error)

namespace Read

def failAt {α : Type} (offset : Nat) (cause : Cause) : Read α :=
  fun _ => .error (.malformed cause (some offset))

/-- The offset of the next mark. -/
def tell : Read Nat := do return (← get).offset

/-- Fails `back` characters before the next mark. -/
def fail {α : Type} (cause : Cause) (back : Nat := 0) : Read α := do
  failAt ((← tell) - back) cause

/-- The next mark, which is not consumed. -/
def peek : Read (Option Mark) := do
  match (← get).rest with
  | [] => return none
  | '\\' :: c :: _ => return some (.escaped c)
  | c :: _ => return some (.plain c)

def goTo (rest : Text) (offset : Nat) : Read Unit := do
  if rest = ['\\'] then failAt offset .trailingBackslash
  else modify fun reading => { reading with rest, offset }

def next : Read (Option Mark) := do
  let mark ← peek
  match mark with
  | none => return none
  | some m =>
    let reading ← get
    goTo (reading.rest.drop m.text.length) (reading.offset + m.text.length)
    return mark

def nextOr (cause : Cause) : Read Mark := do
  match ← next with
  | some mark => return mark
  | none => fail cause

/-- Consumes the character if it comes next, and says whether it did. -/
def take (c : Char) : Read Bool := do
  if (← peek) = some (.plain c) then
    let _ ← next
    return true
  else return false

/-- Consumes at most `n` characters that satisfy `p`. -/
def takeWhile (p : Char → Bool) : Nat → Read Text
  | 0 => return []
  | n + 1 => do
    match ← peek with
    | some (.plain c) =>
      if p c then
        let _ ← next
        return c :: (← takeWhile p n)
      else return []
    | _ => return []

/-- Reads on up to the terminator with the given number of steps; `name` holds what has been read. -/
def nameFrom (terminator : Char) (what : Text) (name : Text) : Nat → Read Text
  | 0 => return name
  | steps + 1 => do
    match ← next with
    | none =>
      if name.isEmpty then fail (.missing what)
      else fail (.missing (terminator :: ", unterminated name")) name.length
    | some mark =>
      if mark = .plain terminator then
        if name.isEmpty then fail (.missing what) 1 else return name
      else nameFrom terminator what (name ++ mark.text) steps

/-- The name before the terminator, which is consumed as well. -/
def name (terminator : Char) (what : Text) : Read Text := do
  nameFrom terminator what [] ((← get).rest.length + 1)

/-- Skips a comment up to its closing parenthesis; the group began at `start`. -/
def skipComment (start : Nat) : Nat → Read Unit
  | 0 => return ()
  | steps + 1 => do
    match ← next with
    | none => failAt start (.missing "), unterminated comment")
    | some mark => if mark = .plain ')' then return () else skipComment start steps

def skipLine : Nat → Read Unit
  | 0 => return ()
  | steps + 1 => do
    match ← next with
    | none => return ()
    | some mark => if mark = .plain '\n' then return () else skipLine steps

/-- The number of groups so far, with the whole match as the first one. -/
def groupCount : Read Nat := do return (← get).widths.length + 1

def width? (group : Nat) : Read (Option (Nat × Nat)) := do
  if group = 0 then return none
  else return ((← get).widths[group - 1]?).join

/-- Opens a group and gives its number. -/
def openGroup (name : Option Text) : Read Nat := do
  let group ← groupCount
  match name with
  | none => modify fun reading => { reading with widths := reading.widths ++ [none] }
  | some name =>
    match (← get).names.lookup name with
    | some former => fail (.nameTaken name group former) (name.length + 1)
    | none =>
      modify fun reading =>
        { reading with
          widths := reading.widths ++ [none]
          names := (name, group) :: reading.names }
  return group

def closeGroup (group : Nat) (body : Expr) : Read Unit :=
  modify fun reading => { reading with widths := reading.widths.set (group - 1) (some body.width) }

/-- Refuses a reference that a look behind may not hold. -/
def checkLookBehind (group : Nat) : Read Unit := do
  match (← get).lookBehind with
  | none => return ()
  | some groups =>
    if (← width? group).isNone then fail .openGroup
    else if groups ≤ group then fail .groupInLookBehind
    else return ()

end Read

end BraceLink.Pattern
