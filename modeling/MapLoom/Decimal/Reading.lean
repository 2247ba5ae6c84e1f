import MapLoom.Decimal.Binary64
import MapLoom.Text.Integer

set_option autoImplicit false

/-!
# Reading decimals

A decimal has an optional sign, digits with at most one point among or around them, and an optional
exponent. The words for infinity and for what is no number are accepted in any case.
-/
namespace MapLoom.Decimal

/-- The exponent after the mantissa: nothing, or a mark, an optional sign and digits. -/
def exponent? : Text → Option Int
  | [] => some 0
  | c :: t => if c = 'e' ∨ c = 'E' then Text.integer? 10 t else none

def magnitude? (t : Text) : Option (Nat × Int) :=
  let (whole, rest) := t.span Text.isDigit
  let (fraction, rest) :=
    match rest with
    | '.' :: rest => rest.span Text.isDigit
    | _ => ([], rest)
  match Text.natural? 10 (whole ++ fraction), exponent? rest with
  | some digits, some exponent => some (digits, exponent - fraction.length)
  | _, _ => none

def unsigned? (negative : Bool) (t : Text) : Option Binary64 :=
  let word := t.map Char.toLower
  if word = "inf" ∨ word = "infinity" then some (.infinite negative)
  else if word = "nan" then some .nan
  else (magnitude? t).map fun (digits, exponent) => .ofDecimal negative digits exponent

def read? : Text → Option Binary64
  | '-' :: t => unsigned? true t
  | '+' :: t => unsigned? false t
  | t => unsigned? false t

end MapLoom.Decimal
