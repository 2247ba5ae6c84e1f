import MapLoom.Decimal.Shortest
import MapLoom.Text.Basic

set_option autoImplicit false

/-!
# Number texts

A layout says how the shortest digits are written: between which places of the point they stand
without an exponent, whether a whole number keeps `.0`, and what stands for infinity and for what is
no number.
-/
namespace MapLoom.Decimal

structure Layout where
  tie : Tie
  /-- The lowest and highest place of the point written without an exponent. -/
  positional : Option (Int × Int)
  /-- Whether a whole number is written with `.0`. -/
  keepPoint : Bool
  nan : Text
  infinity : Text
  minusInfinity : Text

def Layout.scalar : Layout := ⟨.even, some (-4, 16), true, ".nan", ".inf", "-.inf"⟩

/-- Numbers with a visible point, and an exponent from `1e16` up and below `1e-4`. -/
def Layout.plain : Layout := ⟨.up, some (-3, 16), true, "NaN", "inf", "-inf"⟩

/-- Numbers that templates print: never an exponent and no `.0`. -/
def Layout.printed : Layout := ⟨.up, none, false, "NaN", "inf", "-inf"⟩

/-- Digits with the point after place `point`. -/
def positionalText (keepPoint : Bool) (digits : Text) (point : Int) : Text :=
  if point ≤ 0 then "0." ++ List.replicate (-point).toNat '0' ++ digits
  else if digits.length ≤ point.toNat then
    digits ++ List.replicate (point.toNat - digits.length) '0' ++ (if keepPoint then ".0" else "")
  else digits.take point.toNat ++ "." ++ digits.drop point.toNat

def exponentText (digits : Text) (point : Int) : Text :=
  digits.take 1 ++ (if digits.length ≤ 1 then [] else '.' :: digits.drop 1) ++
    'e' :: Text.ofInt (point - 1)

def magnitudeText (layout : Layout) (x : Scientific) : Text :=
  let digits := Text.ofNat x.digits
  let point : Int := digits.length + x.exponent
  match layout.positional with
  | none => positionalText layout.keepPoint digits point
  | some (low, high) =>
    if low ≤ point ∧ point ≤ high then positionalText layout.keepPoint digits point
    else exponentText digits point

def write (layout : Layout) : Binary64 → Text
  | .nan => layout.nan
  | .infinite negative => if negative then layout.minusInfinity else layout.infinity
  | .finite negative mantissa scale =>
    let magnitude :=
      if mantissa = 0 then if layout.keepPoint then ("0.0" : Text) else "0"
      else magnitudeText layout (shortest layout.tie mantissa scale)
    if negative then '-' :: magnitude else magnitude

end MapLoom.Decimal
