import BraceLink.Calendar

/-!
# Written moments

The way dates and moments are written: `2001-12-14`, `2001-12-14 21:59:43.10 -5`, `2001-12-14t21:59:43Z`.
Whether the calendar has the date is another question.
-/

namespace BraceLink.Yaml

/-- A time of day, with the distance from universal time in seconds. -/
structure WrittenClock where
  hour : Nat
  minute : Nat
  second : Nat
  microsecond : Nat
  offset : Option Int
  deriving DecidableEq, Repr

/-- A date with or without a time of day. -/
structure WrittenMoment where
  date : Date
  clock : Option WrittenClock
  deriving DecidableEq, Repr

namespace WrittenMoment

/-- The number at the beginning of a text that has from `least` to `most` digits, and the rest. -/
def number? (least most : Nat) (text : Text) : Option (Nat × Text) :=
  let digits := (text.take most).takeWhile Char.isDigit
  if digits.length < least then none
  else some (Text.decimalNumber digits, text.drop digits.length)

def behind? (c : Char) (text : Text) : Option Text := Text.dropPrefix? [c] text

/-- The millionths of a second behind a point. -/
def fraction (text : Text) : Nat × Text :=
  match text with
  | '.' :: rest =>
    let digits := rest.takeWhile Char.isDigit
    (Text.decimalNumber ((digits ++ List.replicate 6 '0').take 6), rest.drop digits.length)
  | _ => (0, text)

/-- The distance from universal time at the end of a text. -/
def zone? (text : Text) : Option (Option Int) :=
  match text.dropWhile fun c => c = ' ' || c = '\t' with
  | [] => if text.isEmpty then some none else none
  | ['Z'] => some (some 0)
  | sign :: rest => do
    if sign ≠ '+' && sign ≠ '-' then none
    let (hours, rest) ← number? 1 2 rest
    let (minutes, rest) ←
      match rest with
      | ':' :: rest => number? 2 2 rest
      | _ => some (0, rest)
    if !rest.isEmpty then none
    let seconds : Int := (hours * 60 + minutes) * 60
    return some (if sign = '-' then -seconds else seconds)

/-- The time of day at the end of a text. -/
def clock? (text : Text) : Option WrittenClock := do
  let (hour, text) ← number? 1 2 text
  let (minute, text) ← number? 2 2 (← behind? ':' text)
  let (second, text) ← number? 2 2 (← behind? ':' text)
  let (microsecond, text) := fraction text
  return { hour, minute, second, microsecond, offset := ← zone? text }

def read? (text : Text) : Option WrittenMoment := do
  let (year, text) ← number? 4 4 text
  let (month, text) ← number? 1 2 (← behind? '-' text)
  let (day, text) ← number? 1 2 (← behind? '-' text)
  let date : Date := { year, month, day }
  match text with
  | [] => return { date, clock := none }
  | first :: rest =>
    if first = 'T' || first = 't' then return { date, clock := ← clock? rest }
    else if first = ' ' || first = '\t' then
      return { date, clock := ← clock? (rest.dropWhile fun c => c = ' ' || c = '\t') }
    else none

end WrittenMoment

end BraceLink.Yaml
