import MapLoom.Decimal.Binary64
import MapLoom.Schema.Naming

set_option autoImplicit false

/-!
# Entries

An entry is a named range of bytes in the calibration memory, with the fields that its bits hold.
Addresses and lengths are words of 64 bits and wrap; those that a schema document can declare stay
below half of that range.
-/
namespace MapLoom

inductive InitValue
  | integer (n : Int)
  | float (x : Binary64)
  deriving DecidableEq

structure Field where
  name : Text
  /-- The first bit within the entry. -/
  pos : UInt32
  bits : UInt32
  /-- The scalar type of the field in generated code. -/
  resolveAs : Text
  /-- The length of an array, or zero for a scalar. -/
  numEntries : UInt32
  initValue : InitValue
  brief : Text
  description : Text
  deriving DecidableEq

def isFloatType (type : Text) : Bool := type = "float" || type = "double"

namespace Field

def isArray (f : Field) : Bool := 0 < f.numEntries

def isFloat (f : Field) : Bool := isFloatType f.resolveAs

def snakeName (f : Field) : Text := MapLoom.snakeName f.name

end Field

structure Entry where
  name : Text
  address : UInt64
  length : UInt64
  fields : List Field
  brief : Text
  description : Text
  deriving DecidableEq

namespace Entry

def snakeName (e : Entry) : Text := MapLoom.snakeName e.name

def bandName (e : Entry) : BandName := MapLoom.bandName e.name

/-- One past the last byte. -/
def endAddress (e : Entry) : UInt64 := e.address + e.length

def lastAddress (e : Entry) : UInt64 := if e.endAddress = 0 then 0 else e.endAddress - 1

def rangeText (e : Entry) : Text :=
  e.name ++ ": [0x" ++ Text.upperHex 4 e.address.toNat ++ ":0x" ++
    Text.upperHex 4 e.lastAddress.toNat ++ "]"

end Entry
end MapLoom
