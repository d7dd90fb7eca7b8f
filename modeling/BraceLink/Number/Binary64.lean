import BraceLink.Text.Basic

/-!
# Floating point numbers of 64 bits

A finite number is a significand times a power of two, with the significand below `2 ^ 53`. Every
operation is the exact operation on fractions followed by one rounding to the nearest number, where a
tie goes to the even significand.
-/

namespace BraceLink

/-- A floating point number of 64 bits. -/
inductive Binary64 where
  /-- The number `significand * 2 ^ exponent` with a sign. -/
  | finite (negative : Bool) (significand : Nat) (exponent : Int)
  | infinite (negative : Bool)
  | nan
  deriving DecidableEq, Repr

/-- A non-negative fraction with a sign. -/
structure Ratio where
  negative : Bool
  num : Nat
  den : Nat
  deriving DecidableEq, Repr

namespace Ratio

/-- The fraction `n * base ^ exponent`. -/
def scaled (negative : Bool) (n base : Nat) (exponent : Int) : Ratio :=
  match exponent with
  | .ofNat e => ⟨negative, n * base.pow e, 1⟩
  | .negSucc e => ⟨negative, n, base.pow (e + 1)⟩

def signedNum (r : Ratio) : Int := if r.negative then -(r.num : Int) else r.num

def add (r s : Ratio) : Ratio :=
  let total := r.signedNum * s.den + s.signedNum * r.den
  ⟨decide (total < 0) || (total = 0 && r.negative && s.negative), total.natAbs, r.den * s.den⟩

def mul (r s : Ratio) : Ratio := ⟨r.negative != s.negative, r.num * s.num, r.den * s.den⟩

end Ratio

/-- The quotient rounded to the nearest number, a tie to the even one. -/
def divRoundEven (num den : Nat) : Nat :=
  let q := num / den
  let r := num % den
  if 2 * r < den then q
  else if den < 2 * r then q + 1
  else if q % 2 = 0 then q else q + 1

namespace Binary64

/-- The least exponent of a finite number. -/
def minExponent : Int := -1074

/-- The greatest exponent of a finite number. -/
def maxExponent : Int := 971

/-- The position of the highest bit of the fraction. -/
def leadingBit (num den : Nat) : Int :=
  let guess : Int := (num.log2 : Int) - den.log2
  let reached : Bool :=
    match guess with
    | .ofNat e => den * Nat.pow 2 e ≤ num
    | .negSucc e => den ≤ num * Nat.pow 2 (e + 1)
  if reached then guess else guess - 1

/-- The number nearest to the fraction. -/
def ofRatio (r : Ratio) : Binary64 :=
  if r.num = 0 ∨ r.den = 0 then .finite r.negative 0 minExponent
  else
    let exponent := max (leadingBit r.num r.den - 52) minExponent
    let m :=
      match exponent with
      | .ofNat e => divRoundEven r.num (r.den * Nat.pow 2 e)
      | .negSucc e => divRoundEven (r.num * Nat.pow 2 (e + 1)) r.den
    let (m, exponent) := if m = Nat.pow 2 53 then (Nat.pow 2 52, exponent + 1) else (m, exponent)
    if maxExponent < exponent then .infinite r.negative else .finite r.negative m exponent

/-- The fraction that the number is, if it is finite. -/
def toRatio? : Binary64 → Option Ratio
  | .finite negative m e => some (Ratio.scaled negative m 2 e)
  | _ => none

def isZero : Binary64 → Bool
  | .finite _ m _ => m = 0
  | _ => false

def equalsInt (x : Binary64) (n : Int) : Bool :=
  match x.toRatio? with
  | some r => r.signedNum = n * r.den
  | none => false

/-- Equality of numbers: the zeros are equal, and nothing equals the undefined number. -/
def equals : Binary64 → Binary64 → Bool
  | .nan, _ => false
  | _, .nan => false
  | .infinite a, .infinite b => a == b
  | .infinite _, _ => false
  | _, .infinite _ => false
  | .finite a m e, .finite b n f => (m = 0 && n = 0) || (a == b && m = n && e = f)

/-- The sum of two numbers. -/
def add (x y : Binary64) : Binary64 :=
  match x, y with
  | .nan, _ | _, .nan => .nan
  | .infinite a, .infinite b => if a = b then x else .nan
  | _, _ =>
    match x.toRatio?, y.toRatio? with
    | some r, some s => ofRatio (r.add s)
    | some _, none => y
    | none, _ => x

/-- The product with a number that is finite and not zero. -/
def mul (x y : Binary64) : Binary64 :=
  match x.toRatio?, y.toRatio? with
  | some r, some s => ofRatio (r.mul s)
  | some _, none => y
  | none, _ => x

def neg : Binary64 → Binary64
  | .finite a m e => .finite (!a) m e
  | .infinite a => .infinite (!a)
  | .nan => .nan

/-- The number nearest to an integer. -/
def ofNat (n : Nat) : Binary64 := ofRatio ⟨false, n, 1⟩

/-- Whether the whole number can be made a number with a fraction. -/
def fits (n : Nat) : Bool :=
  match ofNat n with
  | .infinite _ => false
  | _ => true

/-- The number nearest to `digits * 10 ^ exponent`. -/
def ofDecimal (negative : Bool) (digits : Nat) (exponent : Int) : Binary64 :=
  if digits = 0 then .finite negative 0 minExponent
  else
    let width : Int := (Nat.toDigits 10 digits).length
    if 400 < width + exponent then .infinite negative
    else if width + exponent < -400 then .finite negative 0 minExponent
    else ofRatio (Ratio.scaled negative digits 10 exponent)

end Binary64

end BraceLink
