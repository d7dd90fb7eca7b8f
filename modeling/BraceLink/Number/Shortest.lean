import BraceLink.Number.Binary64

/-!
# Shortest decimals

The decimal with the fewest digits that reads back as the same number, and of those with equally few
digits the nearest one. For each count of digits only the two neighbours of the number on the grid of
that count have to be looked at.
-/

namespace BraceLink

/-- A decimal number: its digits as a number, and the power of ten that they are multiplied with. -/
structure Decimal where
  digits : Nat
  exponent : Int
  deriving DecidableEq, Repr

namespace Binary64

/-- The numbers that round to `significand * 2 ^ exponent`, all over one denominator. -/
structure Neighbourhood where
  low : Nat
  value : Nat
  high : Nat
  den : Nat
  closed : Bool

/-- The interval of fractions that round to the number; its ends belong to it if the significand is
even. -/
def neighbourhood (m : Nat) (e : Int) : Neighbourhood :=
  let narrow := m = Nat.pow 2 52 ∧ minExponent < e
  let quarter := 4 * m
  let low := if narrow then quarter - 1 else quarter - 2
  match e - 2 with
  | .ofNat k =>
    let scale := Nat.pow 2 k
    ⟨low * scale, quarter * scale, (quarter + 2) * scale, 1, m % 2 = 0⟩
  | .negSucc k => ⟨low, quarter, quarter + 2, Nat.pow 2 (k + 1), m % 2 = 0⟩

/-- Whether `digits * 10 ^ exponent` lies in the interval. -/
def Neighbourhood.holds (n : Neighbourhood) (d : Decimal) : Bool :=
  let (num, scale) :=
    match d.exponent with
    | .ofNat k => (d.digits * Nat.pow 10 k * n.den, 1)
    | .negSucc k => (d.digits * n.den, Nat.pow 10 (k + 1))
  if n.closed then n.low * scale ≤ num && num ≤ n.high * scale
  else n.low * scale < num && num < n.high * scale

/-- The largest multiple of `10 ^ exponent` that is not above the number, in units of the power, and
twice the rest compared with the unit. -/
def Neighbourhood.below (n : Neighbourhood) (exponent : Int) : Nat × Ordering :=
  let (num, den) :=
    match exponent with
    | .ofNat k => (n.value, n.den * Nat.pow 10 k)
    | .negSucc k => (n.value * Nat.pow 10 (k + 1), n.den)
  (num / den, compare (2 * (num % den)) den)

/-- The nearest decimal on the grid of `10 ^ exponent` that reads back, if there is one. -/
def Neighbourhood.onGrid? (n : Neighbourhood) (exponent : Int) : Option Decimal :=
  let (d, half) := n.below exponent
  let lower : Decimal := ⟨d, exponent⟩
  let upper : Decimal := ⟨d + 1, exponent⟩
  match n.holds lower && d ≠ 0, n.holds upper with
  | true, true =>
    match half with
    | .lt => some lower
    | .gt => some upper
    | .eq => some (if d % 2 = 0 then lower else upper)
  | true, false => some lower
  | false, true => some upper
  | false, false => none

/-- The first grid with a hit, from the coarsest of `count` grids to the finest. -/
def Neighbourhood.search (n : Neighbourhood) : Nat → Int → Decimal
  | 0, exponent => ⟨(n.below exponent).1, exponent⟩
  | count + 1, exponent =>
    match n.onGrid? exponent with
    | some d => d
    | none => n.search count (exponent - 1)

/-- The power of ten just above the fraction. -/
def decimalPoint (num den : Nat) : Int :=
  if den ≤ num then (Nat.toDigits 10 (num / den)).length
  else 1 - ((Nat.toDigits 10 (den / num)).length : Int)

/-- The shortest decimal that reads back as the positive number `m * 2 ^ e`. -/
def shortest (m : Nat) (e : Int) : Decimal :=
  let n := neighbourhood m e
  n.search 19 (decimalPoint n.value n.den)

/-- How a number is written: the whole range of exponents that is written with a plain point. -/
structure PlainRange where
  leastPlain : Int
  endPlain : Int

/-- Numbers from `0.0001` up to `10 ^ 16` are written plainly, all others with an exponent. -/
def plainRange : PlainRange := ⟨-4, 16⟩

/-- Removes the zeros at the end of the digits. -/
def trimZeros (digits : Text) : Text :=
  match Text.dropEndWhile (· = '0') digits with
  | [] => ['0']
  | rest => rest

def writeDecimal (d : Decimal) : Text :=
  let all := Text.ofNat d.digits
  let exponent := d.exponent + all.length - 1
  let digits := trimZeros all
  if plainRange.leastPlain ≤ exponent ∧ exponent < plainRange.endPlain then
    match exponent with
    | .ofNat k =>
      let whole := digits.take (k + 1)
      let whole := whole ++ List.replicate (k + 1 - whole.length) '0'
      let part := digits.drop (k + 1)
      whole ++ "." ++ (if part.isEmpty then ['0'] else part)
    | .negSucc k => "0." ++ List.replicate k '0' ++ digits
  else
    let power := Text.ofNat exponent.natAbs
    let power := if power.length < 2 then '0' :: power else power
    let sign := if exponent < 0 then '-' else '+'
    digits.take 1 ++ (if digits.length ≤ 1 then [] else '.' :: digits.drop 1) ++
      'e' :: sign :: power

/-- The text of a number: the fewest digits that read back. -/
def write : Binary64 → Text
  | .nan => "nan"
  | .infinite negative => if negative then "-inf" else "inf"
  | .finite negative m e =>
    let size : Text := if m = 0 then "0.0" else writeDecimal (shortest m e)
    if negative then '-' :: size else size

end Binary64

end BraceLink
