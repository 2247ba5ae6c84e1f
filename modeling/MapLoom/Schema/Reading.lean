import MapLoom.Schema.AddressMap
import MapLoom.Schema.Error
import MapLoom.Schema.Literal

set_option autoImplicit false

/-!
# Reading a schema

The document is a mapping with a list of entries, each a mapping with an optional list of fields.
The checks run in one fixed order, entry by entry and field by field, and the first that fails is
reported with the path of its node. A null under a key counts as no such key, and keys that the
schema does not know are ignored.
-/
namespace MapLoom
open Yaml (Value)

structure SchemaNode where
  entries : List (Value × Value)
  path : NodePath

namespace SchemaNode

def ofValue (v : Value) (path : NodePath) : Except SchemaError SchemaNode :=
  match v.asMap? with
  | some entries => .ok ⟨entries, path⟩
  | none => .error (.wrongType path "node" .mapping)

/-- What stands under a key, unless it is null. -/
def value? (n : SchemaNode) (key : Text) : Option Value :=
  (Value.lookup key n.entries).filter (!·.isNull)

def coerced {α : Type} (n : SchemaNode) (key : Text) (expected : Expected)
    (coerce : Value → Option α) (v : Value) : Except SchemaError α :=
  match coerce v with
  | some a => .ok a
  | none => .error (.wrongType n.path key expected)

def required {α : Type} (n : SchemaNode) (key : Text) (expected : Expected)
    (coerce : Value → Option α) : Except SchemaError α :=
  match n.value? key with
  | some v => n.coerced key expected coerce v
  | none => .error (.missingField n.path key)

def optional {α : Type} (n : SchemaNode) (key : Text) (expected : Expected)
    (coerce : Value → Option α) (default : α) : Except SchemaError α :=
  match n.value? key with
  | some v => n.coerced key expected coerce v
  | none => .ok default

/-- Reads the name of a node, which replaces the last step of its path. -/
def named (n : SchemaNode) : Except SchemaError (Text × SchemaNode) := do
  let name ← n.required "name" .string Value.asText?
  return (name, { n with path := n.path.renamed name })

end SchemaNode

def bitsAlias? (word : Text) : Option (UInt32 × Text) :=
  if word = "float" then some (32, "float")
  else if word = "double" then some (64, "double")
  else if word = "short" then some (16, "int16_t")
  else if word = "int" then some (32, "int32_t")
  else none

def unsignedType (bits : UInt32) : Text := "uint" ++ Text.ofNat bits.toNat ++ "_t"

/-- The width and type of a field: a number keeps the declared type, a word fixes both. -/
def readWidth (n : SchemaNode) (declared : Text) : Except SchemaError (UInt32 × Text) :=
  match n.value? "bits" with
  | none => .error (.missingField n.path "bits")
  | some v =>
    match v.asInteger? with
    | some bits =>
      match Value.natural32? bits with
      | some bits => .ok (bits, if declared = [] then unsignedType bits else declared)
      | none => .error (.wrongType n.path "bits" .nonNegative)
    | none =>
      match v.asText? with
      | none => .error (.wrongType n.path "bits" .integerOrAlias)
      | some word =>
        match bitsAlias? word with
        | some width => .ok width
        | none => .error (.unresolvedBits n.path word)

def readInitValue (n : SchemaNode) (type : Text) : Except SchemaError InitValue :=
  if isFloatType type then
    return .float (← n.optional "init_value" .float Value.asFloat? .zero)
  else return .integer (← n.optional "init_value" .integer Value.asInteger? 0)

def readField (path : NodePath) (v : Value) : Except SchemaError Field := do
  let (name, n) ← (← SchemaNode.ofValue v path).named
  let pos ← n.required "pos" .nonNegative Value.asNatural32?
  let numEntries ← n.optional "num_entries" .nonNegative Value.asNatural32? 0
  let declared ← n.optional "resolve_as" .string Value.asText? []
  let (bits, resolveAs) ← readWidth n declared
  let initValue ← readInitValue n resolveAs
  let brief ← n.optional "brief" .string Value.asText? []
  let description ← n.optional "description" .string Value.asText? []
  return { name, pos, bits, resolveAs, numEntries, initValue, brief, description }

def readElements {α : Type} (read : NodePath → Value → Except SchemaError α) (path : NodePath)
    (list : Text) : Nat → List Value → Except SchemaError (List α)
  | _, [] => .ok []
  | i, v :: vs => do
    let a ← read (path.indexed list i) v
    let rest ← readElements read path list (i + 1) vs
    return a :: rest

def readEntry (path : NodePath) (v : Value) : Except SchemaError Entry := do
  let (name, n) ← (← SchemaNode.ofValue v path).named
  let address ← n.required "address" .nonNegative Value.asNatural64?
  let length ← n.required "length" .positive Value.asPositive64?
  let brief ← n.optional "brief" .string Value.asText? []
  let description ← n.optional "description" .string Value.asText? []
  let fields ← n.optional "fields" .list Value.asList? []
  let fields ← readElements readField n.path "fields" 0 fields
  return { name, address, length, fields, brief, description }

def AddressMap.ofValue (v : Value) : Except SchemaError AddressMap := do
  let n ← SchemaNode.ofValue v .root
  let brief ← n.required "brief" .string Value.asText?
  let parameters ← n.required "parameters" .list Value.asList?
  let entries ← readElements readEntry n.path "parameters" 0 parameters
  return .ofEntries brief entries

end MapLoom
