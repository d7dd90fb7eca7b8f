import BraceLink.Number.Numeral
import BraceLink.Settings.Value
import BraceLink.Yaml.Error
import BraceLink.Yaml.Kind

/-!
# Values of scalars

The value that the text of a scalar has as a value of some kind. A tag may ask for a kind that the text does
not look like.
-/

namespace BraceLink.Yaml

/-- A numeral without low lines, and whether it has a minus sign. -/
def signed (content : Text) : Except Error (Bool × Text) :=
  match content.filter (· ≠ '_') with
  | [] => .error .noNumber
  | '-' :: digits => .ok (true, digits)
  | '+' :: digits => .ok (false, digits)
  | digits => .ok (false, digits)

/-- The whole number that digits of the base write. -/
def wholeIn (base : Nat) (digits : Text) : Except Error Int :=
  if base = 10 && Number.maxDigits < (digits.filter Text.isDigit).length then .error .badNumber
  else
    match Number.integerIn? base digits with
    | some n => .ok n
    | none => .error .badNumber

def readInt (content : Text) : Except Error Int := do
  let (negative, digits) ← signed content
  let n ←
    match digits with
    | [] => throw .noNumber
    | ['0'] => pure 0
    | '0' :: 'b' :: rest => wholeIn 2 rest
    | '0' :: 'x' :: rest => wholeIn 16 rest
    | '0' :: _ => wholeIn 8 digits
    | _ => do
      let parts ← (Text.splitOn ':' digits).mapM (wholeIn 10)
      pure (parts.foldl (fun n part => n * 60 + part) 0)
  return if negative then -n else n

/-- The number with a fraction that a text writes. -/
def fractionOf (digits : Text) : Except Error Binary64 :=
  match Number.float? digits with
  | some x => .ok x
  | none => .error .badNumber

/-- A sum of numbers, the last one single, the one before it sixty times, and so on. -/
def sixtyfold (parts : List Binary64) : Except Error Binary64 :=
  let add (state : Binary64 × Nat) (part : Binary64) : Binary64 × Nat :=
    (state.1.add (part.mul (.ofNat state.2)), state.2 * 60)
  if Binary64.fits (Nat.pow 60 (parts.length - 1)) then .ok (parts.reverse.foldl add (.ofNat 0, 1)).1
  else .error .hugePlace

def readFloat (content : Text) : Except Error Binary64 := do
  let (negative, digits) ← signed (Text.lowerAscii content)
  if digits = ".nan".toList then return .nan
  let x ←
    if digits = ".inf".toList then pure (.infinite false)
    else if ':' ∈ digits then do sixtyfold (← (Text.splitOn ':' digits).mapM fractionOf)
    else fractionOf digits
  return if negative then x.neg else x

def readBool (content : Text) : Except Error Bool :=
  match Kind.truths.lookup (Text.lowerAscii content) with
  | some b => .ok b
  | none => .error .badTruth

def readMoment (content : Text) : Except Error Value :=
  match WrittenMoment.read? (Kind.withoutBreak content) with
  | none => .error .badMoment
  | some written =>
    match written.clock with
    | none => if written.date.isValid then .ok (.date written.date) else .error .badNumber
    | some clock =>
      let moment : Moment :=
        { date := written.date
          hour := clock.hour
          minute := clock.minute
          second := clock.second
          microsecond := clock.microsecond
          offset := clock.offset }
      if moment.isValid then .ok (.moment moment) else .error .badNumber

/-- The value of a character that stands for six bits. -/
def sixBits? (c : Char) : Option Nat :=
  if c.isUpper then some (c.toNat - 'A'.toNat)
  else if c.isLower then some (c.toNat - 'a'.toNat + 26)
  else if c.isDigit then some (c.toNat - '0'.toNat + 52)
  else if c = '+' then some 62
  else if c = '/' then some 63
  else none

/-- The bytes that are written with six bits a character, four characters for three bytes. `held` are the
bits that do not fill a byte yet, `place` is the place among four characters, and `fills` counts the equals
signs directly before; characters without a value are passed over. -/
def bytesFrom (place held fills : Nat) : Text → Except Error (List UInt8)
  | [] => if place = 0 then .ok [] else .error .malformed
  | c :: rest =>
    if c = '=' then
      if 2 ≤ place && 4 ≤ place + fills + 1 then .ok []
      else bytesFrom place held (if 2 ≤ place then fills + 1 else fills) rest
    else
      match sixBits? c with
      | none => bytesFrom place held fills rest
      | some bits =>
        match place with
        | 0 => bytesFrom 1 bits 0 rest
        | 1 => do return UInt8.ofNat (held * 4 + bits / 16) :: (← bytesFrom 2 (bits % 16) 0 rest)
        | 2 => do return UInt8.ofNat (held * 16 + bits / 4) :: (← bytesFrom 3 (bits % 4) 0 rest)
        | _ => do return UInt8.ofNat (held * 64 + bits) :: (← bytesFrom 0 0 0 rest)

def readBinary (content : Text) : Except Error (List UInt8) :=
  if content.all fun c => c.toNat < 0x80 then bytesFrom 0 0 0 content else .error .malformed

def readScalar (kind : Kind) (content : Text) : Except Error Value :=
  match kind with
  | .null => .ok .null
  | .bool => (readBool content).map .bool
  | .int => (readInt content).map .int
  | .float => (readFloat content).map .float
  | .binary => (readBinary content).map .bytes
  | .moment => readMoment content
  | .text => .ok (.text content)
  | _ => .error .malformed

end BraceLink.Yaml
