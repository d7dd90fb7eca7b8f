import BraceLink.Text.Blank

/-!
# Targets of links

What stands between round brackets behind the text of a link: a target and perhaps a title in quotes. Brackets
inside of the target are counted. A quote may begin a title; then brackets do not count any more, unless the
title turns out not to be closed.
-/

namespace BraceLink.Classic

/-- A target as it is written, with the offset behind the closing bracket. -/
structure WrittenTarget where
  link : Text
  title : Option Text
  stop : Nat
  deriving Repr

/-- A text without the last `n` characters. -/
def dropEnd (n : Nat) (text : Text) : Text := text.take (text.length - n)

/-- A target between angles and a title in quotes, behind the opening bracket; the rest is what follows the
closing bracket. -/
def angledTarget? (text : Text) : Option (Text × Option Text × Text) := do
  let '<' :: inner := text | none
  let link := inner.takeWhile fun c => c ≠ '<' && c ≠ '>'
  let '>' :: rest := inner.drop link.length | none
  let rest := rest.dropWhile Text.isBlank
  let close (title : Option Text) (rest : Text) : Option (Text × Option Text × Text) :=
    match rest.dropWhile Text.isBlank with
    | ')' :: rest => some (link, title, rest)
    | _ => none
  match rest with
  | quote :: more =>
    if quote = '\x22' || quote = '\x27' then
      match Text.cut quote more with
      | (title, some rest) => close (some title) rest
      | (_, none) => none
    else close none rest
  | [] => none

/-- What is known while the closing bracket is looked for; offsets count from the beginning of the
target. -/
structure TargetScan where
  offset : Nat := 0
  /-- The brackets that are open. -/
  opened : Nat := 1
  /-- The brackets that were open before the title began. -/
  backup : Nat := 1
  /-- The offset behind the bracket that closes the target if the title is none. -/
  fallback : Option Nat := none
  quote : Option Char := none
  titleStart : Nat := 0
  titleStop : Option Nat := none
  otherQuote : Option Char := none
  otherStart : Nat := 0
  otherStop : Option Nat := none
  /-- The last character that is no space. -/
  last : Option Char := none

namespace TargetScan

/-- Whether a title has just been closed. -/
def titleClosed (s : TargetScan) : Bool := s.titleStop.isSome && s.quote = s.last

/-- Whether a title with the other quote has just been closed. -/
def otherClosed (s : TargetScan) : Bool := s.otherStop.isSome && s.otherQuote = s.last

def step (s : TargetScan) (c : Char) : TargetScan :=
  let inTitle := s.quote.isSome
  let s :=
    if c = '(' then
      if !inTitle then { s with opened := s.opened + 1 } else { s with backup := s.backup - 1 }
    else if c = ')' then
      if s.titleClosed || s.otherClosed then { s with opened := 0 }
      else if !inTitle then { s with opened := s.opened - 1 }
      else if 0 < s.backup then
        { s with
          backup := s.backup - 1
          fallback := if s.backup = 1 then some (s.offset + 1) else s.fallback }
      else s
    else if c = '\x27' || c = '\x22' then
      if !inTitle then
        { s with backup := s.opened, opened := 1, titleStart := s.offset + 1, quote := some c }
      else if s.quote ≠ some c && s.otherQuote.isNone then
        { s with otherStart := s.offset + 1, otherQuote := some c }
      else if s.quote = some c then { s with titleStop := some (s.offset + 1) }
      else if s.otherQuote = some c then { s with otherStop := some (s.offset + 1) }
      else s
    else s
  { s with offset := s.offset + 1 }

/-- Goes on up to the bracket that closes the target. -/
def run (s : TargetScan) : Text → TargetScan
  | [] => s
  | c :: rest =>
    let s := s.step c
    if s.opened = 0 then s else run (if c = ' ' then s else { s with last := some c }) rest

end TargetScan

/-- A part of a text between two offsets. -/
def slice (text : Text) (first last : Nat) : Text := (text.take last).drop first

/-- The target behind the opening bracket, without angles. -/
def bareTarget? (text : Text) : Option WrittenTarget :=
  let s := TargetScan.run {} text
  if s.opened = 0 then
    if s.titleClosed then
      some
        { link := slice text 0 (s.titleStart - 1)
          title := some (slice text s.titleStart (s.titleStop.getD 1 - 1))
          stop := s.offset }
    else if s.otherClosed then
      some
        { link := slice text 0 (s.otherStart - 1)
          title := some (slice text s.otherStart (s.otherStop.getD 1 - 1))
          stop := s.offset }
    else some { link := slice text 0 (s.offset - 1), title := none, stop := s.offset }
  else if s.backup = 0 then
    match s.fallback with
    | some stop => some { link := slice text 0 (stop - 1), title := none, stop }
    | none => some { link := dropEnd 2 text, title := none, stop := text.length - 1 }
  else none

/-- The target at the beginning of a text; the offset counts from there. -/
def target? (text : Text) : Option WrittenTarget :=
  match text with
  | '(' :: rest =>
    let inner := rest.dropWhile Text.isBlank
    match angledTarget? inner with
    | some (link, title, after) =>
      some { link := Text.strip link, title, stop := text.length - after.length }
    | none =>
      (bareTarget? inner).map fun found =>
        { found with stop := found.stop + (text.length - inner.length) }
  | _ => none

/-- The text up to the bracket that closes it, and the offset behind that bracket. -/
def bracketed? : (depth : Nat) → Text → Option (Text × Nat)
  | _, [] => none
  | depth, c :: rest =>
    if c = ']' && depth = 0 then some ([], 1)
    else
      let depth := if c = ']' then depth - 1 else if c = '[' then depth + 1 else depth
      (bracketed? depth rest).map fun (text, stop) => (c :: text, stop + 1)

end BraceLink.Classic
