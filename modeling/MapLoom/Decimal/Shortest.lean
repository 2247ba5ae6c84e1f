import MapLoom.Decimal.Binary64

set_option autoImplicit false

/-!
# Shortest decimal digits

The decimals that round to a positive number `mantissa * 2 ^ scale` form an interval around it,
with its ends exactly when the mantissa is even. For one, two and up to seventeen digits the two
neighbours of the number on that decimal grid are tried: the first grid with a hit wins, of two hits
the nearer, and of two equally near ones the greater or the even one.
-/
namespace MapLoom.Decimal

/-- Which of two equally near neighbours is taken. -/
inductive Tie
  | up
  | even
  deriving DecidableEq

/-- The number `digits * 10 ^ exponent`. -/
structure Scientific where
  digits : Nat
  exponent : Int
  deriving DecidableEq

/-- The interval of what rounds to a number, in quarter units. -/
structure Interval where
  low : Nat
  high : Nat
  closed : Bool

namespace Interval

def around (mantissa scale : Nat) : Interval :=
  let value := 4 * Binary64.units mantissa scale
  let below := if mantissa = twoTo 52 ∧ 0 < scale then twoTo scale else 2 * twoTo scale
  ⟨value - below, value + 2 * twoTo scale, mantissa % 2 = 0⟩

def holds (i : Interval) (num den : Nat) : Bool :=
  if i.closed then i.low * den ≤ num ∧ num ≤ i.high * den
  else i.low * den < num ∧ num < i.high * den

end Interval

/-- The number of decimal places before the point; negative for zeros after it. -/
def pointOf (mantissa scale : Nat) : Int :=
  (Nat.toDigits 10 (Binary64.units mantissa scale * tenTo 324 / Binary64.unitsOfOne)).length - 324

/-- The nearest decimal with a last place of `10 ^ exponent` that rounds to the number, if any. -/
def onGrid? (tie : Tie) (mantissa scale : Nat) (exponent : Int) : Option Nat :=
  let up := tenTo exponent.toNat
  let down := tenTo (-exponent).toNat
  let num := Binary64.units mantissa scale * down
  let den := up * Binary64.unitsOfOne
  let floor := num / den
  let interval := Interval.around mantissa scale
  let hit (n : Nat) : Bool := interval.holds (4 * n * den) down
  let twice := 2 * (num % den)
  match hit floor, hit (floor + 1) with
  | false, false => none
  | true, false => some floor
  | false, true => some (floor + 1)
  | true, true =>
    if twice < den then some floor
    else if den < twice then some (floor + 1)
    else
      match tie with
      | .up => some (floor + 1)
      | .even => some (if floor % 2 = 0 then floor else floor + 1)

def stripZeros : Nat → Scientific → Scientific
  | 0, x => x
  | fuel + 1, x =>
    if x.digits % 10 = 0 then stripZeros fuel ⟨x.digits / 10, x.exponent + 1⟩ else x

/-- Tries grids from `count` digits on; seventeen digits always suffice. -/
def shortestFrom (tie : Tie) (mantissa scale : Nat) (point : Int) : Nat → Nat → Scientific
  | 0, _ => ⟨0, 0⟩
  | fuel + 1, count =>
    match onGrid? tie mantissa scale (point - count) with
    | some digits => stripZeros 20 ⟨digits, point - count⟩
    | none => shortestFrom tie mantissa scale point fuel (count + 1)

/-- The fewest digits that read back as a positive number. -/
def shortest (tie : Tie) (mantissa scale : Nat) : Scientific :=
  shortestFrom tie mantissa scale (pointOf mantissa scale) 18 1

end MapLoom.Decimal
