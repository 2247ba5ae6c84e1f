import MapLoom.Text.Basic

set_option autoImplicit false

/-!
# Written integers

Digits in a base up to sixteen, read from the left, with an optional sign where one is allowed.
-/
namespace MapLoom.Text

def digit? (base : Nat) (c : Char) : Option Nat :=
  let value? : Option Nat :=
    if '0' ≤ c ∧ c ≤ '9' then some (c.toNat - '0'.toNat)
    else if 'a' ≤ c ∧ c ≤ 'f' then some (c.toNat - 'a'.toNat + 10)
    else if 'A' ≤ c ∧ c ≤ 'F' then some (c.toNat - 'A'.toNat + 10)
    else none
  value?.filter (· < base)

def isDigit (c : Char) : Bool := '0' ≤ c && c ≤ '9'

def appendDigits? (base : Nat) (n : Nat) : Text → Option Nat
  | [] => some n
  | c :: t =>
    match digit? base c with
    | none => none
    | some d => appendDigits? base (base * n + d) t

/-- One or more digits and nothing else. -/
def natural? (base : Nat) : Text → Option Nat
  | [] => none
  | c :: t => appendDigits? base 0 (c :: t)

/-- An optional sign and one or more digits. -/
def integer? (base : Nat) : Text → Option Int
  | '-' :: t => (natural? base t).map fun n => -(n : Int)
  | '+' :: t => (natural? base t).map Int.ofNat
  | t => (natural? base t).map Int.ofNat

end MapLoom.Text
