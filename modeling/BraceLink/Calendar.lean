import BraceLink.Text.Basic

/-!
# Dates and moments

A date of the calendar, and a moment: a date with a time of day and, if it is known, the distance of
the clock from universal time. Each is shown in two ways: as people write it, and as an expression that
builds it.
-/

namespace BraceLink

structure Date where
  year : Nat
  month : Nat
  day : Nat
  deriving DecidableEq, Repr

structure Moment where
  date : Date
  hour : Nat
  minute : Nat
  second : Nat
  microsecond : Nat
  /-- The distance from universal time in seconds. -/
  offset : Option Int
  deriving DecidableEq, Repr

/-- The numeral with zeros in front. -/
def Text.padded (width n : Nat) : Text :=
  let digits := Text.ofNat n
  List.replicate (width - digits.length) '0' ++ digits

namespace Date

/-- Whether a year has a 29th of February. -/
def isLeap (year : Nat) : Bool := year % 4 = 0 && (year % 100 ≠ 0 || year % 400 = 0)

def daysIn (year month : Nat) : Nat :=
  if month = 2 then if isLeap year then 29 else 28
  else if month = 4 || month = 6 || month = 9 || month = 11 then 30
  else 31

def isValid (d : Date) : Bool :=
  1 ≤ d.year && d.year ≤ 9999 && 1 ≤ d.month && d.month ≤ 12 && 1 ≤ d.day &&
    d.day ≤ daysIn d.year d.month

def daysBefore (year : Nat) : Nat :=
  let past := year - 1
  past * 365 + past / 4 - past / 100 + past / 400

/-- The number of days up to the date. -/
def ordinal (d : Date) : Nat :=
  daysBefore d.year + (List.range (d.month - 1)).foldl (fun days m => days + daysIn d.year (m + 1)) 0 + d.day

/-- The date as people write it. -/
def shown (d : Date) : Text :=
  Text.padded 4 d.year ++ '-' :: Text.padded 2 d.month ++ '-' :: Text.padded 2 d.day

/-- The arguments of the expression that builds the date. -/
def arguments (d : Date) : List Text := [d.year, d.month, d.day].map Text.ofNat

/-- The expression that builds the date. -/
def literal (d : Date) : Text := "datetime.date(" ++ Text.join ", " d.arguments ++ ")"

end Date

namespace Moment

/-- Whether a clock can show the moment. -/
def isValid (m : Moment) : Bool :=
  m.date.isValid && m.hour < 24 && m.minute < 60 && m.second < 60 &&
    match m.offset with
    | some seconds => seconds.natAbs < 86400
    | none => true

/-- The microseconds from a fixed beginning to the moment in universal time. -/
def instant (m : Moment) : Int :=
  let seconds : Int := ((m.date.ordinal * 24 + m.hour) * 60 + m.minute) * 60 + m.second
  (seconds - m.offset.getD 0) * 1000000 + m.microsecond

/-- Whether two moments are the same; a moment without a distance is none with one. -/
def same (m n : Moment) : Bool := m.offset.isSome = n.offset.isSome && m.instant = n.instant

/-- The distance from universal time as people write it. -/
def shownOffset (seconds : Int) : Text :=
  let n := seconds.natAbs
  let rest := if n % 60 = 0 then [] else ':' :: Text.padded 2 (n % 60)
  (if seconds < 0 then '-' else '+') :: Text.padded 2 (n / 3600) ++ ':' ::
    Text.padded 2 (n / 60 % 60) ++ rest

/-- The moment as people write it. -/
def shown (m : Moment) : Text :=
  let part := if m.microsecond = 0 then [] else '.' :: Text.padded 6 m.microsecond
  m.date.shown ++ ' ' :: Text.padded 2 m.hour ++ ':' :: Text.padded 2 m.minute ++ ':' ::
    Text.padded 2 m.second ++ part ++ (m.offset.map shownOffset).getD []

/-- The expression that builds the distance from universal time. -/
def offsetLiteral (seconds : Int) : Text :=
  if seconds = 0 then "datetime.timezone.utc"
  else
    let days : Text := if seconds < 0 then "days=-1, " else []
    "datetime.timezone(datetime.timedelta(" ++ days ++ "seconds=" ++
      Text.ofNat (seconds % 86400).toNat ++ "))"

/-- The expression that builds the moment. -/
def literal (m : Moment) : Text :=
  let clock :=
    if m.microsecond = 0 then
      if m.second = 0 then [m.hour, m.minute] else [m.hour, m.minute, m.second]
    else [m.hour, m.minute, m.second, m.microsecond]
  let zone :=
    match m.offset with
    | some seconds => ["tzinfo=" ++ offsetLiteral seconds]
    | none => []
  "datetime.datetime(" ++ Text.join ", " (m.date.arguments ++ clock.map Text.ofNat ++ zone) ++ ")"

end Moment

end BraceLink
