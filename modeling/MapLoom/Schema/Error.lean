import MapLoom.Files.Failure
import MapLoom.Schema.Entry
import MapLoom.Schema.NodePath

set_option autoImplicit false

/-!
# What can be wrong with a schema
-/
namespace MapLoom

inductive Expected
  | mapping
  | string
  | list
  | integer
  | nonNegative
  | positive
  | float
  | integerOrAlias
  deriving DecidableEq

def Expected.text : Expected → Text
  | .mapping => "mapping"
  | .string => "string"
  | .list => "list"
  | .integer => "integer"
  | .nonNegative => "non-negative integer"
  | .positive => "positive integer"
  | .float => "float"
  | .integerOrAlias => "integer or type alias"

inductive SchemaError
  | missingField (path : NodePath) (field : Text)
  | wrongType (path : NodePath) (field : Text) (expected : Expected)
  | unresolvedBits (path : NodePath) (value : Text)
  | notYaml
  | unreadable (file : Text) (failure : Files.Failure)
  deriving DecidableEq

def SchemaError.message : SchemaError → Text
  | .missingField path field => path.text ++ " is missing a \"" ++ field ++ "\" entry"
  | .wrongType path field expected =>
    field ++ " in " ++ path.text ++ " is not a " ++ expected.text
  | .unresolvedBits path value =>
    "bits in " ++ path.text ++ " is neither an integer nor one of float|double|short|int: '" ++
      value ++ "'"
  | .notYaml => "invalid YAML"
  | .unreadable file failure => "failed to read " ++ file ++ ": " ++ failure.message

inductive RangeError
  | overlap (first second : Entry)
  | outOfBounds (entry : Entry) (size : UInt64)
  deriving DecidableEq

def RangeError.message : RangeError → Text
  | .overlap first second => "overlap found: " ++ first.rangeText ++ ", " ++ second.rangeText
  | .outOfBounds entry size =>
    "entry exceeds the 0x" ++ Text.upperHex 4 size.toNat ++ "-byte address space: " ++
      entry.rangeText

end MapLoom
