import MapLoom.Template.Value
import MapLoom.Text.Words

set_option autoImplicit false

/-!
# Filters

The functions that a template may apply to a value with a bar. Most of them change a text; one
counts and one writes an address.
-/
namespace MapLoom.Template

/-- The width of the smallest machine integer with at least so many bits. -/
def nativeWidth? (bits : Nat) : Option Nat :=
  if bits = 0 then none
  else if bits ≤ 8 then some 8
  else if bits ≤ 16 then some 16
  else if bits ≤ 32 then some 32
  else if bits ≤ 64 then some 64
  else none

/-- A number of bits, which may have a plus sign and leading zeros and fits 32 bits. -/
def bitCount? (t : Text) : Option Nat :=
  let digits := match t with
    | '+' :: digits => digits
    | digits => digits
  (Text.natural? 10 digits).filter (· < twoTo 32)

/-- The `ctypes` name for what follows the kind of an integer type: a width and `_t`. -/
def sizedName? (name width : Text) : Option Text :=
  ((List.isSuffixOf? "_t" width).bind fun digits => (bitCount? digits).bind nativeWidth?).map
    fun native => name ++ Text.ofNat native

/-- The `ctypes` name of a scalar type, with the next machine width for an integer. -/
def ctypeName? (type : Text) : Option Text :=
  if type = "float" then some "c_float"
  else if type = "double" then some "c_double"
  else
    match List.isPrefixOf? "uint" type with
    | some width => sizedName? "c_uint" width
    | none => (List.isPrefixOf? "int" type).bind (sizedName? "c_int")

def printfFormat (type : Text) : Text :=
  if type = "float" ∨ type = "double" then "%f" else "%d"

inductive Filter
  | snakeCase
  | pascalCase
  | camelCase
  | kebabCase
  | hex
  | ctype
  | printfFormat
  | length
  deriving DecidableEq

inductive FilterFault
  | notText (filter : Filter)
  | notNatural
  | notMapped (type : Text)
  | noLength
  deriving DecidableEq

namespace Filter

def name : Filter → Text
  | .snakeCase => "snake_case"
  | .pascalCase => "pascal_case"
  | .camelCase => "camel_case"
  | .kebabCase => "kebab_case"
  | .hex => "hex"
  | .ctype => "ctype"
  | .printfFormat => "printf_format"
  | .length => "length"

def all : List Filter :=
  [.snakeCase, .pascalCase, .camelCase, .kebabCase, .hex, .ctype, .printfFormat, .length]

def ofName? (name : Text) : Option Filter := all.find? (·.name = name)

def onText (filter : Filter) (rule : Text → Except FilterFault Text) :
    Value → Except FilterFault Value
  | .text t => (rule t).map .text
  | _ => .error (.notText filter)

def apply : Filter → Value → Except FilterFault Value
  | .snakeCase => onText .snakeCase fun t => .ok t.snakeCase
  | .pascalCase => onText .pascalCase fun t => .ok t.pascalCase
  | .camelCase => onText .camelCase fun t => .ok t.camelCase
  | .kebabCase => onText .kebabCase fun t => .ok t.kebabCase
  | .hex => fun v =>
    match v with
    | .integer n =>
      if 0 ≤ n then .ok (.text ("0x" ++ Text.upperHex 4 n.toNat)) else .error .notNatural
    | _ => .error .notNatural
  | .ctype => onText .ctype fun t =>
    match ctypeName? t with
    | some name => .ok name
    | none => .error (.notMapped t)
  | .printfFormat => onText .printfFormat fun t => .ok (Template.printfFormat t)
  | .length => fun v =>
    match v with
    | .text t => .ok (.integer t.length)
    | .list items => .ok (.integer items.length)
    | .object members => .ok (.integer members.length)
    | _ => .error .noLength

end Filter

def FilterFault.message : FilterFault → Text
  | .notText filter => filter.name ++ " filter expects a string"
  | .notNatural => "hex filter expects a non-negative integer"
  | .notMapped type => "ctype filter cannot map '" ++ type ++ "'"
  | .noLength =>
    "Filter `length` was used on a value that isn't an array, an object, or a string."

end MapLoom.Template
