import MapLoom.Decimal.Reading
import MapLoom.Text.Blank
import MapLoom.Text.Integer
import MapLoom.Yaml.Value

set_option autoImplicit false

/-!
# Scalars of a schema

A number may be written as a number or as a text that spells one, and a text may be any untagged
scalar. Integers are those of 64 bits with a sign.
-/
namespace MapLoom

def inInt64? (n : Int) : Option Int := if fitsSigned 64 n then some n else none

/-- A decimal integer, or a hexadecimal one whose sign follows the `0x`. -/
def integerLiteral? (t : Text) : Option Int :=
  match t with
  | '0' :: 'x' :: digits => (Text.integer? 16 digits).bind inInt64?
  | '0' :: 'X' :: digits => (Text.integer? 16 digits).bind inInt64?
  | t => (Text.integer? 10 t).bind inInt64?

namespace Yaml.Value

def asText? : Value → Option Text
  | .text t => some t
  | .integer n => some (Text.ofInt n)
  | .float x => some (Decimal.write .scalar x)
  | .bool true => some "true"
  | .bool false => some "false"
  | _ => none

def asInteger? : Value → Option Int
  | .integer n => inInt64? n
  | .float x => x.toInt?.filter fun n => n.natAbs < twoTo 63
  | .text t => integerLiteral? t.trim
  | _ => none

def asNatural64? (v : Value) : Option UInt64 :=
  v.asInteger?.bind fun n => if 0 ≤ n then some (.ofNat n.toNat) else none

def asPositive64? (v : Value) : Option UInt64 := v.asNatural64?.filter (0 < ·)

def natural32? (n : Int) : Option UInt32 :=
  if fitsUnsigned 32 n then some (.ofNat n.toNat) else none

def asNatural32? (v : Value) : Option UInt32 := v.asInteger?.bind natural32?

def asFloat? : Value → Option Binary64
  | .integer n => some (.ofInt n)
  | .float x => some x
  | .text t => Decimal.read? t.trim
  | _ => none

end Yaml.Value
end MapLoom
