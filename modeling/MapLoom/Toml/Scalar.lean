import MapLoom.Decimal.Reading
import MapLoom.Text.Integer

set_option autoImplicit false

/-!
# Numbers, words and times of a configuration text

Digits may have single underscores between them. A time is checked for its form and the range of its
parts, but its value is of no use here.
-/
namespace MapLoom.Toml

inductive Value
  | text (t : Text)
  | integer (n : Int)
  | float (x : Binary64)
  | bool (b : Bool)
  | moment
  | list (items : List Value)
  | table (entries : List (Text × Value))

instance : Inhabited Value := ⟨.moment⟩

/-- Takes out underscores, each of which must stand between two digits of the base. -/
def withoutUnderscores? (base : Nat) : Text → Option Text
  | [] => some []
  | [c] => if (Text.digit? base c).isSome then some [c] else none
  | c :: '_' :: t =>
    if (Text.digit? base c).isSome ∧ t ≠ [] then (withoutUnderscores? base t).map (c :: ·) else none
  | c :: t =>
    if (Text.digit? base c).isSome then (withoutUnderscores? base t).map (c :: ·) else none

def digits? (base : Nat) (t : Text) : Option Nat :=
  (withoutUnderscores? base t).bind (Text.natural? base)

def decimalDigits? (t : Text) : Option Nat :=
  if 1 < t.length ∧ t.head? = some '0' then none else digits? 10 t

def integer? (t : Text) : Option Int :=
  match t with
  | '0' :: 'x' :: t => (digits? 16 t).map Int.ofNat
  | '0' :: 'o' :: t => (digits? 8 t).map Int.ofNat
  | '0' :: 'b' :: t => (digits? 2 t).map Int.ofNat
  | '-' :: t => (decimalDigits? t).map fun n => -(n : Int)
  | '+' :: t => (decimalDigits? t).map Int.ofNat
  | t => (decimalDigits? t).map Int.ofNat

def isExponentMark (c : Char) : Bool := c = 'e' || c = 'E'

def exponentPart? : Text → Option Text
  | [] => some []
  | _ :: '-' :: t => (withoutUnderscores? 10 t).map fun t => 'e' :: '-' :: t
  | _ :: '+' :: t => (withoutUnderscores? 10 t).map fun t => 'e' :: t
  | _ :: t => (withoutUnderscores? 10 t).map ('e' :: ·)

def unsignedFloat? (negative : Bool) (t : Text) : Option Binary64 :=
  if t = "inf" then some (.infinite negative)
  else if t = "nan" then some .nan
  else
    let mantissa := t.takeWhile (!isExponentMark ·)
    let exponent := t.dropWhile (!isExponentMark ·)
    let whole := mantissa.takeWhile (· ≠ '.')
    let fraction := mantissa.dropWhile (· ≠ '.')
    if (fraction = [] ∧ exponent = []) ∨ fraction = ['.'] ∨ (decimalDigits? whole).isNone then none
    else
      match withoutUnderscores? 10 whole, withoutUnderscores? 10 (fraction.drop 1),
          exponentPart? exponent with
      | some whole, some fraction, some exponent =>
        Decimal.unsigned? negative (whole ++ '.' :: fraction ++ exponent)
      | _, _, _ => none

def float? : Text → Option Binary64
  | '-' :: t => unsignedFloat? true t
  | '+' :: t => unsignedFloat? false t
  | t => unsignedFloat? false t

/-- Exactly so many digits, as a number in a range, and the text after them. -/
def digitsIn? (count low high : Nat) (t : Text) : Option Text :=
  if t.length < count then none
  else
    match Text.natural? 10 (t.take count) with
    | some n => if low ≤ n ∧ n ≤ high then some (t.drop count) else none
    | none => none

def char? (c : Char) : Text → Option Text
  | d :: t => if c = d then some t else none
  | [] => none

def date? (t : Text) : Option Text := do
  let t ← digitsIn? 4 0 9999 t
  let t ← digitsIn? 2 1 12 (← char? '-' t)
  digitsIn? 2 1 31 (← char? '-' t)

def secondFraction? : Text → Option Text
  | '.' :: c :: t => if Text.isDigit c then some (t.dropWhile Text.isDigit) else none
  | '.' :: [] => none
  | t => some t

def time? (t : Text) : Option Text := do
  let t ← digitsIn? 2 0 23 t
  let t ← digitsIn? 2 0 59 (← char? ':' t)
  match t with
  | ':' :: t => secondFraction? (← digitsIn? 2 0 60 t)
  | t => some t

/-- What a time may add: nothing, the letter of universal time, or hours and minutes. -/
def offset? : Text → Option Text
  | [] => some []
  | c :: t =>
    if c = 'Z' ∨ c = 'z' then some t
    else if c = '+' ∨ c = '-' then do
      let t ← digitsIn? 2 0 23 t
      digitsIn? 2 0 59 (← char? ':' t)
    else none

/-- A date, a time, or both with what may follow them. -/
def isMoment (t : Text) : Bool :=
  match date? t with
  | some [] => true
  | some (c :: t) =>
    (c = 'T' || c = 't' || c = ' ') && ((time? t).bind offset?) = some []
  | none => time? t = some []

def Value.ofWord? (t : Text) : Option Value :=
  if t = "true" then some (.bool true)
  else if t = "false" then some (.bool false)
  else
    match integer? t with
    | some n => some (.integer n)
    | none =>
      match float? t with
      | some x => some (.float x)
      | none => if isMoment t then some .moment else none

def isWordChar (c : Char) : Bool :=
  c.isAlphanum || c = '_' || c = '-' || c = '+' || c = '.' || c = ':'

/-- The characters of a word without quotes; a date may have a blank before its time. -/
def word (t : Text) : Text × Text :=
  let first := t.takeWhile isWordChar
  let rest := t.dropWhile isWordChar
  match rest with
  | ' ' :: c :: after =>
    if date? first = some [] ∧ Text.isDigit c then
      (first ++ ' ' :: (c :: after).takeWhile isWordChar, (c :: after).dropWhile isWordChar)
    else (first, rest)
  | _ => (first, rest)

end MapLoom.Toml
