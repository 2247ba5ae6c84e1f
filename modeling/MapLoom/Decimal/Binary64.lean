import MapLoom.Decimal.Power

set_option autoImplicit false

/-!
# Binary floating-point numbers of 64 bits

A finite number is `mantissa * 2 ^ scale` in units of `2 ^ -1074`, so its magnitude is a natural
number of units. The written form is canonical: the mantissa is below `2 ^ 53`, and below `2 ^ 52`
only at scale zero. `ofRatio` rounds a quotient to the nearest number, a half to the even mantissa.
-/
namespace MapLoom

inductive Binary64
  | nan
  | infinite (negative : Bool)
  | finite (negative : Bool) (mantissa scale : Nat)
  deriving DecidableEq, Inhabited

namespace Binary64

def zero : Binary64 := .finite false 0 0

/-- How many units the number one has. -/
def unitsOfOne : Nat := twoTo 1074

/-- The quotient rounded to a natural number, a half going to the even neighbour. -/
def divideToEven (num den : Nat) : Nat :=
  let q := num / den
  let twice := 2 * (num % den)
  if twice < den then q
  else if den < twice then q + 1
  else if q % 2 = 0 then q else q + 1

/-- The number nearest to `num / den`, for a positive `den`. -/
def ofRatio (negative : Bool) (num den : Nat) : Binary64 :=
  let units := num * unitsOfOne
  let scale := (units / den).log2 + 1 - 53
  let mantissa := divideToEven units (den * twoTo scale)
  let (mantissa, scale) := if mantissa = twoTo 53 then (twoTo 52, scale + 1) else (mantissa, scale)
  if 2045 < scale then .infinite negative else .finite negative mantissa scale

def ofInt (n : Int) : Binary64 := ofRatio (decide (n < 0)) n.natAbs 1

/-- The number nearest to `digits * 10 ^ exponent`. Far beyond the range the power is not formed. -/
def ofDecimal (negative : Bool) (digits : Nat) (exponent : Int) : Binary64 :=
  if digits = 0 then .finite negative 0 0
  else
    let point : Int := (Nat.toDigits 10 digits).length + exponent
    if 400 < point then .infinite negative
    else if point < -400 then .finite negative 0 0
    else ofRatio negative (digits * tenTo exponent.toNat) (tenTo (-exponent).toNat)

/-- The magnitude of a finite number in units of `2 ^ -1074`. -/
def units (mantissa scale : Nat) : Nat := mantissa * twoTo scale

def isFinite : Binary64 → Bool
  | .finite .. => true
  | _ => false

/-- The integer that a finite number without fraction stands for. -/
def toInt? : Binary64 → Option Int
  | .finite negative mantissa scale =>
    if units mantissa scale % unitsOfOne = 0 then
      let n : Int := (units mantissa scale / unitsOfOne : Nat)
      some (if negative then -n else n)
    else none
  | _ => none

def signedUnits (negative : Bool) (mantissa scale : Nat) : Int :=
  if negative then -(units mantissa scale : Int) else units mantissa scale

/-- Numerical order; nothing is less than, or greater than, a number that is none. -/
def lt : Binary64 → Binary64 → Bool
  | .nan, _ => false
  | _, .nan => false
  | .infinite a, .infinite b => a && !b
  | .infinite a, .finite .. => a
  | .finite .., .infinite b => !b
  | .finite a m s, .finite b n t => signedUnits a m s < signedUnits b n t

/-- Numerical equality: the two zeros are equal, and what is no number equals nothing. -/
def equal : Binary64 → Binary64 → Bool
  | .infinite a, .infinite b => a == b
  | .finite a m s, .finite b n t => signedUnits a m s = signedUnits b n t
  | _, _ => false

end Binary64
end MapLoom
