import MapLoom.Decimal.Reading
import MapLoom.Yaml.Value

set_option autoImplicit false

/-!
# Plain scalars as values

A plain scalar is null, a boolean, an integer or a finite or infinite float if it is written as one,
and a text otherwise. Decimal digits after a leading zero are a text. Integers have 64 bits, with or
without a sign; one that needs up to 128 is refused, and a longer one is read as a float.
-/
namespace MapLoom.Yaml

def isNullWord (t : Text) : Bool := t = "null" || t = "Null" || t = "NULL" || t = "~"

def boolWord? (t : Text) : Option Bool :=
  if t = "true" ∨ t = "True" ∨ t = "TRUE" then some true
  else if t = "false" ∨ t = "False" ∨ t = "FALSE" then some false
  else none

def dropSign : Text → Text
  | '-' :: t => t
  | '+' :: t => t
  | t => t

def hasLeadingZero (t : Text) : Bool :=
  match dropSign t with
  | '0' :: c :: rest => (c :: rest).all Text.isDigit
  | _ => false

/-- Digits after the mark of a base, or else decimal digits. -/
def basedNatural? (t : Text) : Option Nat :=
  match t with
  | '0' :: 'x' :: digits => Text.natural? 16 digits
  | '0' :: 'o' :: digits => Text.natural? 8 digits
  | '0' :: 'b' :: digits => Text.natural? 2 digits
  | _ => Text.natural? 10 t

def integer? (t : Text) : Option Int :=
  if hasLeadingZero t then none
  else
    match t with
    | '-' :: rest => (basedNatural? rest).map fun n => -(n : Int)
    | '+' :: rest => (basedNatural? rest).map Int.ofNat
    | _ => (basedNatural? t).map Int.ofNat

/-- A float, of which only the words with a point may be infinite or no number. -/
def float? (t : Text) : Option Binary64 :=
  let unsigned : Text := match t with
    | '+' :: rest => rest
    | _ => t
  if unsigned = ".inf" ∨ unsigned = ".Inf" ∨ unsigned = ".INF" then some (.infinite false)
  else if t = "-.inf" ∨ t = "-.Inf" ∨ t = "-.INF" then some (.infinite true)
  else if t = ".nan" ∨ t = ".NaN" ∨ t = ".NAN" then some .nan
  else if unsigned ≠ t ∧ (unsigned.head? = some '+' ∨ unsigned.head? = some '-') then none
  else (Decimal.read? unsigned).filter (·.isFinite)

/-- How an integer that was read is taken: as a value, as an error, or not at all. -/
inductive IntegerFit
  | fits
  | refused
  | tooLong
  deriving DecidableEq

def integerFit (n : Int) : IntegerFit :=
  if fitsSigned 64 n ∨ fitsUnsigned 64 n then .fits
  else if fitsSigned 128 n ∨ fitsUnsigned 128 n then .refused
  else .tooLong

namespace Value

def ofPlain? (t : Text) : Option Value :=
  if t = [] ∨ isNullWord t then some .null
  else
    match boolWord? t with
    | some b => some (.bool b)
    | none =>
      let other :=
        if hasLeadingZero t then .text t
        else
          match float? t with
          | some x => .float x
          | none => .text t
      match integer? t with
      | none => some other
      | some n =>
        match integerFit n with
        | .fits => some (.integer n)
        | .refused => none
        | .tooLong => some other

/-- The value of a scalar with a tag that is not local. The tags of the core types insist on their
type; any other makes a text. -/
def ofTagged? (tag t : Text) : Option Value :=
  if tag = "tag:yaml.org,2002:bool" then (boolWord? t).map .bool
  else if tag = "tag:yaml.org,2002:int" then
    match integer? t with
    | some n => if integerFit n = .fits then some (.integer n) else none
    | none => none
  else if tag = "tag:yaml.org,2002:float" then (float? t).map .float
  else if tag = "tag:yaml.org,2002:null" then if isNullWord t then some .null else none
  else some (.text t)

end Value
end MapLoom.Yaml
